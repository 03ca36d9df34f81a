import Jianmen.Library.Ledger
import Jianmen.DBProxy.MySQL.Observer
import Jianmen.DBProxy.Session

/-!
# Every MySQL command is audited first and finished once

The records that still wait for a finish are those of the pending queue that were recorded and
whose finish has not failed.  Allowed starts, finish attempts and these form a balanced ledger in
every state the observer reaches, whatever the peers send and however the sink answers; and the
audited commands among the forwarded packets are, one by one, announced by the allowed starts.
-/

namespace Jianmen.DBProxy.MySQLObserver

open List Option

variable (sink : QuerySink)

/-! ## Waiting records -/

/-- A pending record that was recorded and whose finish has not failed. -/
def waitingRecord (entry : QueryRecord × Bool × Bool) : Option QueryRecord :=
  if entry.2.1 && !entry.2.2 then some entry.1 else none

/-- The records that still wait for a finish. -/
def waiting (o : MySQLObserver) : List QueryRecord :=
  (o.pending.zip (o.pendingRecorded.zip o.pendingFailed)).filterMap waitingRecord

/-- The five queues run in parallel, no finish has failed, the ledger is balanced, and a fatal
observer has nothing pending. -/
structure Sound (o : MySQLObserver) : Prop where
  recorded_length : o.pendingRecorded.length = o.pending.length
  failed_length : o.pendingFailed.length = o.pending.length
  commands_length : o.pendingCommands.length = o.pending.length
  prepared_length : o.pendingPrepared.length = o.pending.length
  none_failed : ∀ failed ∈ o.pendingFailed, failed = false
  balanced : Ledger.Balanced (allowedRecords o.calls) (finishAttempts o.calls) o.waiting
  fatal_empty : o.fatal.isSome → o.pending = []

/-- What a part of the observer that starts no query does to a sound one. -/
def Follows (o o' : MySQLObserver) : Prop :=
  o.Sound → o'.Sound ∧ ∃ more, o'.calls = o.calls ++ more ∧ NoStart more

theorem Follows.refl (o : MySQLObserver) : Follows o o :=
  fun sound => ⟨sound, [], by simp, NoStart.nil⟩

variable {o₁ o₂ o₃ o o' : MySQLObserver} {record : QueryRecord} {records : List QueryRecord}
  {calls more : List SinkCall} {relaying : Relaying MySQLObserver}
  {payload forwarded before : Bytes} {session : Session MySQLObserver} {verdict : QueryDecision}
  {packet forwarded : Bytes} {packets : List Bytes}

theorem Follows.trans (first : Follows o₁ o₂) (second : Follows o₂ o₃) : Follows o₁ o₃ := by
  intro sound
  obtain ⟨sound₂, more, calls, quiet⟩ := first sound
  obtain ⟨sound₃, more', calls', quiet'⟩ := second sound₂
  exact ⟨sound₃, more ++ more', by rw [calls', calls, append_assoc], quiet.append quiet'⟩

/-- What soundness looks at: the queues, the calls and the fatal decision. -/
def books (o : MySQLObserver) :=
  (o.pending, o.pendingRecorded, o.pendingFailed, o.pendingCommands, o.pendingPrepared, o.calls,
    o.fatal)

theorem Follows.of_books (same : o'.books = o.books) : Follows o o' := by
  cases o
  cases o'
  simp only [books, Prod.mk.injEq] at same
  obtain ⟨rfl, rfl, rfl, rfl, rfl, rfl, rfl⟩ := same
  exact fun sound => ⟨{ sound with }, [], by simp, NoStart.nil⟩

theorem Follows.after {o o' o'' : MySQLObserver} (follows : Follows o' o'')
    (same : o'.books = o.books) : Follows o o'' :=
  (Follows.of_books same).trans follows

/-- Handling a packet leaves the buffers alone, or fails and drops them. -/
def Keeps (o o' : MySQLObserver) : Prop :=
  o'.maxClientMessageBytes = o.maxClientMessageBytes ∧
    ((o'.clientBuf = o.clientBuf ∧ o'.serverBuf = o.serverBuf ∧
        o'.serverStream = o.serverStream ∧ o'.fatal = o.fatal) ∨
      (o'.fatal.isSome ∧ o'.clientBuf = [] ∧ o'.serverBuf = [] ∧ o'.serverStream = none))

/-- What handling a packet leaves alone. -/
def buffers (o : MySQLObserver) :=
  (o.maxClientMessageBytes, o.clientBuf, o.serverBuf, o.serverStream, o.fatal)

theorem Keeps.of_buffers (same : o'.buffers = o.buffers) : Keeps o o' := by
  simp only [buffers, Prod.mk.injEq] at same
  exact ⟨same.1, .inl same.2⟩

theorem Keeps.refl (o : MySQLObserver) : Keeps o o :=
  .of_buffers rfl

theorem Keeps.trans (first : Keeps o₁ o₂) (second : Keeps o₂ o₃) : Keeps o₁ o₃ := by
  obtain ⟨limit, outcome⟩ := first
  obtain ⟨limit', same | dropped⟩ := second
  · refine ⟨limit'.trans limit, ?_⟩
    rw [same.1, same.2.1, same.2.2.1, same.2.2.2]
    exact outcome
  · exact ⟨limit'.trans limit, .inr dropped⟩

theorem Keeps.serverBuf_le (keeps : Keeps o o') : o'.serverBuf.length ≤ o.serverBuf.length := by
  obtain ⟨-, same | dropped⟩ := keeps
  · exact Nat.le_of_eq (by rw [same.2.1])
  · simp [dropped.2.2.1]

theorem Keeps.clientBuf_le (keeps : Keeps o o') : o'.clientBuf.length ≤ o.clientBuf.length := by
  obtain ⟨-, same | dropped⟩ := keeps
  · exact Nat.le_of_eq (by rw [same.1])
  · simp [dropped.2.1]

theorem Keeps.serverStream_none (keeps : Keeps o o') (closed : o.serverStream = none) :
    o'.serverStream = none := by
  obtain ⟨-, same | dropped⟩ := keeps
  · rw [same.2.2.1, closed]
  · exact dropped.2.2.2

/-- What handling a packet without starting a query does. -/
structure Acts (o o' : MySQLObserver) : Prop where
  follows : Follows o o'
  keeps : Keeps o o'

theorem Acts.refl (o : MySQLObserver) : Acts o o :=
  ⟨.refl o, .refl o⟩

theorem Acts.of_same (books : o'.books = o.books) (buffers : o'.buffers = o.buffers) : Acts o o' :=
  ⟨.of_books books, .of_buffers buffers⟩

theorem Acts.trans (first : Acts o₁ o₂) (second : Acts o₂ o₃) : Acts o₁ o₃ :=
  ⟨first.follows.trans second.follows, first.keeps.trans second.keeps⟩

/-! ## Failing -/

private theorem finishPendingFrom_spec (o : MySQLObserver) (code : ErrorCode)
    (recorded_length : o.pendingRecorded.length = o.pending.length)
    (failed_length : o.pendingFailed.length = o.pending.length) (index : ℕ)
    (calls : List SinkCall) (auditFailed : Bool) :
    ∃ more, (finishPendingFrom sink o code index (o.pending.drop index) calls auditFailed).1 =
        calls ++ more ∧ NoStart more ∧
      finishAttempts more = ((o.pending.drop index).zip ((o.pendingRecorded.drop index).zip
        (o.pendingFailed.drop index))).filterMap waitingRecord := by
  obtain ⟨rest, suffix⟩ : ∃ rest, o.pending.drop index = rest := ⟨_, rfl⟩
  induction rest generalizing index calls auditFailed with
  | nil => exact ⟨[], by simp [suffix, finishPendingFrom], NoStart.nil, by simp [suffix]⟩
  | cons record rest ih =>
    have inside : index < o.pending.length := by
      by_contra outside
      simp [drop_eq_nil_of_le (Nat.le_of_not_lt outside)] at suffix
    have tail : o.pending.drop (index + 1) = rest := by
      rw [← tail_drop, suffix]
      rfl
    have recorded_at : o.pendingRecorded[index]? = some (o.pendingRecorded[index]) :=
      getElem?_eq_getElem (by omega)
    have failed_at : o.pendingFailed[index]? = some (o.pendingFailed[index]) :=
      getElem?_eq_getElem (by omega)
    rw [suffix, drop_eq_getElem_cons (l := o.pendingRecorded) (i := index) (by omega),
      drop_eq_getElem_cons (l := o.pendingFailed) (i := index) (by omega)]
    simp only [finishPendingFrom, mysqlPendingIsRecorded, mysqlPendingFinishFailed, recorded_at,
      failed_at, getD_some, zip_cons_cons, filterMap_cons, waitingRecord]
    have skip : (!o.pendingRecorded[index] || o.pendingFailed[index]) =
        !(o.pendingRecorded[index] && !o.pendingFailed[index]) := by simp
    rw [skip]
    cases o.pendingRecorded[index] && !o.pendingFailed[index] with
    | false =>
      obtain ⟨more, execution, quiet, attempts⟩ := ih (index + 1) calls auditFailed tail
      rw [tail] at execution attempts
      exact ⟨more, execution, quiet, attempts⟩
    | true =>
      let finished := finishObservedQuery sink calls record (terminatedFinish code)
      obtain ⟨more, execution, quiet, attempts⟩ :=
        ih (index + 1) finished.1 (auditFailed || !finished.2) tail
      rw [tail] at execution attempts
      refine ⟨[.finish record (terminatedFinish code) finished.2] ++ more, ?_,
        (NoStart.finish _ _ _).append quiet, ?_⟩
      · rw [← append_assoc]
        exact execution
      · rw [finishAttempts_append, attempts]
        rfl

private theorem failDecision_spec (o : MySQLObserver) (decision : QueryDecision)
    (recorded_length : o.pendingRecorded.length = o.pending.length)
    (failed_length : o.pendingFailed.length = o.pending.length)
    (balanced : Ledger.Balanced (allowedRecords o.calls) (finishAttempts o.calls) o.waiting) :
    (o.failDecision sink decision).1.Sound ∧
      ∃ more, (o.failDecision sink decision).1.calls = o.calls ++ more ∧ NoStart more := by
  obtain ⟨more, execution, quiet, attempts⟩ :=
    finishPendingFrom_spec sink o (o.fatal.getD decision).errorCode recorded_length
      failed_length 0 o.calls false
  simp only [drop_zero] at execution attempts
  refine ⟨?_, more, execution, quiet⟩
  refine ⟨rfl, rfl, rfl, rfl, by simp [failDecision], ?_, fun _ => rfl⟩
  simp only [failDecision, execution, allowedRecords_append, quiet.allowedRecords,
    finishAttempts_append, attempts]
  apply Ledger.Balanced.closing_front
  simpa [waiting] using balanced

theorem failDecision_keeps (o : MySQLObserver) (decision : QueryDecision) :
    Keeps o (o.failDecision sink decision).1 :=
  ⟨rfl, .inr ⟨rfl, rfl, rfl, rfl⟩⟩

theorem failDecision_acts (o : MySQLObserver) (decision : QueryDecision) :
    Acts o (o.failDecision sink decision).1 :=
  ⟨fun sound => failDecision_spec sink o decision sound.recorded_length sound.failed_length
    sound.balanced, failDecision_keeps sink o decision⟩

theorem fail_acts (o : MySQLObserver) (code : ErrorCode) (message : String) :
    Acts o (o.fail sink code message).1 :=
  failDecision_acts sink o _

@[simp] theorem failDecision_fatal (o : MySQLObserver) (decision : QueryDecision) :
    (o.failDecision sink decision).1.fatal = some (o.failDecision sink decision).2 :=
  rfl

@[simp] theorem fail_fatal (o : MySQLObserver) (code : ErrorCode) (message : String) :
    (o.fail sink code message).1.fatal = some (o.fail sink code message).2 :=
  rfl

/-! ## Finishing the first pending command -/

/-- The queues of a sound observer with something pending, taken apart at their heads. -/
private theorem Sound.heads (sound : o.Sound) (pending : o.pending = record :: records) :
    ∃ recorded recordeds faileds, o.pendingRecorded = recorded :: recordeds ∧
      o.pendingFailed = false :: faileds := by
  have recorded_length := sound.recorded_length
  have failed_length := sound.failed_length
  rw [pending] at recorded_length failed_length
  obtain ⟨recorded, recordeds, recorded_eq⟩ := exists_cons_of_length_eq_add_one recorded_length
  obtain ⟨failed, faileds, failed_eq⟩ := exists_cons_of_length_eq_add_one failed_length
  have not_failed : failed = false := sound.none_failed failed (by simp [failed_eq])
  exact ⟨recorded, recordeds, faileds, recorded_eq, by rw [failed_eq, not_failed]⟩

theorem settleMySQLPending_keeps (o : MySQLObserver) (record : QueryRecord)
    (finish : QueryFinish) : Keeps o (o.settleMySQLPending sink record finish) := by
  simp only [settleMySQLPending]
  repeat' split
  · exact .of_buffers rfl
  · exact failDecision_keeps sink _ _
  · exact .of_buffers rfl

private theorem popMySQLPending_sound (sound : o.Sound) (notFatal : o.fatal = none)
    (balanced : Ledger.Balanced (allowedRecords calls) (finishAttempts calls)
      ((o.pending.tail.zip (o.pendingRecorded.tail.zip o.pendingFailed.tail)).filterMap
        waitingRecord)) : ({ o with calls := calls } : MySQLObserver).popMySQLPending.Sound := by
  constructor
  · simp [popMySQLPending, sound.recorded_length]
  · simp [popMySQLPending, sound.failed_length]
  · simp [popMySQLPending, sound.commands_length]
  · simp [popMySQLPending, sound.prepared_length]
  · exact fun failed member => sound.none_failed failed (mem_of_mem_tail member)
  · exact balanced
  · simp [popMySQLPending, notFatal]

theorem settleMySQLPending_follows (pending : o.pending = record :: records)
    (finish : QueryFinish) : Follows o (o.settleMySQLPending sink record finish) := by
  intro sound
  obtain ⟨recorded, recordeds, faileds, recorded_eq, failed_eq⟩ := sound.heads pending
  have notFatal : o.fatal = none := by
    cases fatal : o.fatal with
    | none => rfl
    | some => simp [sound.fatal_empty (by simp [fatal])] at pending
  have balanced := sound.balanced
  simp only [waiting, pending, recorded_eq, failed_eq, zip_cons_cons, filterMap_cons,
    waitingRecord] at balanced
  have head : o.mysqlPendingIsRecorded 0 = recorded := by
    simp [mysqlPendingIsRecorded, recorded_eq]
  unfold settleMySQLPending
  cases recorded with
  | false =>
    simp only [head]
    refine ⟨?_, [], by simp [popMySQLPending], NoStart.nil⟩
    apply popMySQLPending_sound sound notFatal
    simpa [pending, recorded_eq, failed_eq] using balanced
  | true =>
    have attempted : ∀ returned, Ledger.Balanced
        (allowedRecords (o.calls ++ [.finish record finish returned]))
        (finishAttempts (o.calls ++ [.finish record finish returned]))
        ((records.zip (recordeds.zip faileds)).filterMap waitingRecord) := by
      simpa using balanced.closing_head
    cases returned : sink.finishQuery o.calls record finish with
    | true =>
      simp only [head, finishObservedQuery, returned]
      refine ⟨?_, _, rfl, NoStart.finish _ _ _⟩
      apply popMySQLPending_sound sound notFatal
      simpa [pending, recorded_eq, failed_eq] using attempted true
    | false =>
      simp only [head, finishObservedQuery, returned]
      let tried : MySQLObserver := { o with calls := o.calls ++ [.finish record finish false] }
      have failed_length : (tried.markMySQLPendingFinishFailed 0).pendingFailed.length =
          o.pending.length := by
        simp [tried, markMySQLPendingFinishFailed, sound.failed_length]
      have no_padding : records.length - faileds.length = 0 := by
        have := sound.failed_length
        simp only [pending, failed_eq, length_cons] at this
        omega
      have balanced : Ledger.Balanced (allowedRecords tried.calls) (finishAttempts tried.calls)
          (tried.markMySQLPendingFinishFailed 0).waiting := by
        simpa [tried, markMySQLPendingFinishFailed, waiting, pending, recorded_eq, failed_eq,
          waitingRecord, no_padding] using attempted false
      obtain ⟨failed_sound, more, calls, quiet⟩ :=
        failDecision_spec sink (tried.markMySQLPendingFinishFailed 0)
          auditSinkFailureDecision sound.recorded_length failed_length balanced
      refine ⟨failed_sound, _ ++ more, ?_, (NoStart.finish record finish false).append quiet⟩
      rw [← append_assoc]
      exact calls

theorem settleMySQLPending_acts (pending : o.pending = record :: records) (finish : QueryFinish) :
    Acts o (o.settleMySQLPending sink record finish) :=
  ⟨settleMySQLPending_follows sink pending finish, settleMySQLPending_keeps sink o record finish⟩

theorem registerCompletedMySQLPrepare_acts {statementID : ℕ} {statement : MySQLPreparedStatement}
    (registered : o.registerCompletedMySQLPrepare statementID statement = some o') :
    Acts o o' ∧ o'.pending = o.pending := by
  unfold registerCompletedMySQLPrepare at registered
  repeat' split at registered
  all_goals simp only [some.injEq, reduceCtorEq] at registered
  rw [← registered]
  exact ⟨.of_same rfl rfl, rfl⟩

theorem finishMySQLPending_acts (o : MySQLObserver) (finish : QueryFinish) :
    Acts o (o.finishMySQLPending sink finish) := by
  unfold finishMySQLPending
  split
  · exact .refl o
  rename_i pending
  split
  · split
    · split
      · exact fail_acts sink o _ _
      · split
        · exact fail_acts sink o _ _
        · rename_i registered
          obtain ⟨follows, same⟩ := registerCompletedMySQLPrepare_acts registered
          exact follows.trans (settleMySQLPending_acts sink (same.trans pending) finish)
    · exact fail_acts sink o _ _
  · exact settleMySQLPending_acts sink pending finish

/-! ## Responses -/

/-- Progress within a response leaves the queues alone. -/
private theorem acts_response (o : MySQLObserver) (response : Option MySQLResponseState) :
    Acts o { o with response := response } :=
  .of_same rfl rfl

theorem observeMySQLCommandResponse_acts (o : MySQLObserver) (state : MySQLResponseState)
    (payload : Bytes) : Acts o (o.observeMySQLCommandResponse sink state payload) := by
  simp only [observeMySQLCommandResponse]
  repeat' split
  all_goals
    first
    | exact .refl o
    | exact acts_response o _
    | exact fail_acts sink o _ _
    | exact finishMySQLPending_acts sink o _

theorem observeMySQLPrepareResponse_acts (o : MySQLObserver) (state : MySQLResponseState)
    (payload : Bytes) : Acts o (o.observeMySQLPrepareResponse sink state payload) := by
  simp only [observeMySQLPrepareResponse]
  repeat' split
  all_goals
    first
    | exact .refl o
    | exact acts_response o _
    | exact fail_acts sink o _ _
    | exact finishMySQLPending_acts sink o _
    | exact (acts_response o _).trans (finishMySQLPending_acts sink _ _)

theorem observeMySQLResponsePacket_acts (o : MySQLObserver) (payload : Bytes) :
    Acts o (o.observeMySQLResponsePacket sink payload) := by
  unfold observeMySQLResponsePacket
  split
  · exact .refl o
  have started :=
    acts_response o (some (o.response.getD { command := o.pendingCommands.headD 0x03 }))
  apply started.trans
  dsimp only
  split
  · exact finishMySQLPending_acts sink _ _
  · split
    · exact observeMySQLPrepareResponse_acts sink _ _ _
    · exact observeMySQLCommandResponse_acts sink _ _ _

theorem finishMySQLPrepareWithOmittedTerminator_acts (o : MySQLObserver) :
    Acts o (o.finishMySQLPrepareWithOmittedTerminator sink) := by
  unfold finishMySQLPrepareWithOmittedTerminator
  repeat' split
  all_goals
    first
    | exact .refl o
    | exact finishMySQLPending_acts sink o _

/-- Handling a response acts on the observer, and a decision is that of a failed one. -/
theorem handleServerPacket_spec (o : MySQLObserver) (payload : Bytes) :
    Acts o (o.handleServerPacket sink payload).1 ∧ ((o.handleServerPacket sink payload).2.isSome →
        (o.handleServerPacket sink payload).1.fatal.isSome) := by
  unfold handleServerPacket
  split
  · exact ⟨.refl o, by simp⟩
  · exact ⟨observeMySQLResponsePacket_acts sink o payload, id⟩

theorem finishMySQLServerLogicalPacket_spec (o : MySQLObserver) (sequence : UInt8) :
    Acts o (o.finishMySQLServerLogicalPacket sink sequence).1 ∧
      ((o.finishMySQLServerLogicalPacket sink sequence).2.isSome →
        (o.finishMySQLServerLogicalPacket sink sequence).1.fatal.isSome) := by
  unfold finishMySQLServerLogicalPacket
  split
  · exact ⟨fail_acts sink o _ _, fun _ => rfl⟩
  rename_i logical _
  obtain ⟨acts, decided⟩ :=
    handleServerPacket_spec sink { o with serverLogical := none } logical.prefixBytes
  have handled := (Acts.of_same rfl rfl : Acts o { o with serverLogical := none }).trans acts
  dsimp only
  split
  · next decision => exact ⟨handled, fun _ => decided (by simp [decision])⟩
  · next failed => exact ⟨handled, fun _ => by simp [failed]⟩
  · exact ⟨handled.trans (.of_same rfl rfl), by simp⟩

/-- What passing on a chunk of a large packet comes to: a decision is that of a failed observer,
the buffer never grows, and something of the chunk is taken or the packet ends. -/
structure Consumed (o : MySQLObserver) (data : Bytes)
    (consumed : MySQLObserver × Bytes × ℕ × Option QueryDecision) : Prop where
  follows : Follows o consumed.1
  decided : consumed.2.2.2.isSome → consumed.1.fatal.isSome
  shrunk : consumed.1.serverBuf.length ≤ o.serverBuf.length
  progress : o.serverStream.isSome → 0 < data.length →
    0 < consumed.2.2.1 ∨ consumed.1.serverStream = none

theorem consumeMySQLServerPacketStream_consumed (o : MySQLObserver) (data : Bytes) :
    Consumed o data (o.consumeMySQLServerPacketStream sink data) := by
  simp only [consumeMySQLServerPacketStream]
  split
  · exact ⟨.refl o, by simp, Nat.le_refl _, by simp_all⟩
  rename_i stream _
  split
  · exact ⟨.refl o, by simp, Nat.le_refl _, fun _ positive => by omega⟩
  split
  · refine ⟨.of_books rfl, by simp, Nat.le_refl _, fun _ _ => .inl ?_⟩
    dsimp only
    omega
  split
  · have finished := fun o₁ : MySQLObserver =>
      finishMySQLServerLogicalPacket_spec sink o₁ stream.sequence
    refine ⟨(finished _).1.follows.after rfl, fun decided => ?_, (finished _).1.keeps.serverBuf_le,
      fun _ _ => .inr ((finished _).1.keeps.serverStream_none rfl)⟩
    simp only [orElse_eq_orElse, orElse_eq_or, isSome_or, Bool.or_eq_true] at decided
    exact decided.elim (finished _).2 id
  · exact ⟨.of_books rfl, by simp, Nat.le_refl _, fun _ _ => .inr rfl⟩

theorem acceptMySQLServerSequence_acts {sequence : UInt8}
    (accepted : o.acceptMySQLServerSequence sequence = some o') : Acts o o' := by
  unfold acceptMySQLServerSequence at accepted
  repeat' split at accepted
  all_goals simp only [some.injEq, reduceCtorEq] at accepted
  all_goals
    rw [← accepted]
    exact .of_same rfl rfl

/-! ## The server relay loop -/

/-- What a pass of the server loop comes to: the observer follows the earlier one, a further pass
has less to read, and a decision is that of a failed observer. -/
abbrev ServerPassed (relaying : Relaying MySQLObserver) :
    Loop.Pass (Relaying MySQLObserver) (Relayed MySQLObserver) → Prop :=
  Loop.Proceeds (fun next => Follows relaying.observer next.observer)
    (fun relayed => Follows relaying.observer relayed.observer ∧
      (relayed.decision.isSome → relayed.observer.fatal.isSome)) serverMeasure relaying

theorem fillServer_passed (relaying : Relaying MySQLObserver) :
    ServerPassed relaying (fillServer sink relaying) := by
  simp only [fillServer]
  repeat' split
  · exact ⟨.refl _, by simp⟩
  · exact ⟨(fail_acts sink _ _ _).follows, fun _ => rfl⟩
  · rename_i _ buffer data appended
    obtain ⟨-, _, _, -⟩ := appendObserverBufferChunk_cases appended
    refine ⟨.of_books rfl, ?_⟩
    simp only [serverMeasure]
    omega

theorem startServerStream_passed {payloadLen : ℕ}
    (header : 4 ≤ relaying.observer.serverBuf.length) :
    ServerPassed relaying (startServerStream sink payloadLen relaying) := by
  simp only [startServerStream]
  split
  · exact ⟨(fail_acts sink _ _ _).follows, fun _ => rfl⟩
  rename_i o accepted
  have consumed := consumeMySQLServerPacketStream_consumed sink { o with
      serverLogical := some (o.serverLogical.getD ⟨[]⟩)
      serverStream := some
        { remaining := payloadLen
          sequence := relaying.observer.serverBuf[3]?.getD 0
          collectPrefix := o.serverLogical.isNone
          finalFragment := decide (payloadLen < maxMySQLPhysicalPacketPayloadBytes) }
      serverBuf := [] } (relaying.observer.serverBuf.drop 4)
  have follows := (acceptMySQLServerSequence_acts accepted).follows.trans
    (consumed.follows.after rfl)
  split
  · next decided => exact ⟨follows, fun _ => consumed.decided (by simp [decided])⟩
  refine ⟨follows, ?_⟩
  have shrunk := consumed.shrunk
  simp only [length_nil] at shrunk
  simp only [serverMeasure]
  split <;> omega

theorem handleBufferedResponse_passed {total : ℕ} (positive : 0 < total)
    (complete : total ≤ relaying.observer.serverBuf.length)
    (closed : relaying.observer.serverStream = none) :
    ServerPassed relaying (handleBufferedResponse sink total relaying) := by
  have lower : ∀ {o' : MySQLObserver} (forward : Bytes), o'.serverStream = none →
      o'.serverBuf.length + total ≤ relaying.observer.serverBuf.length →
      serverMeasure { observer := o', data := relaying.data, forward := forward } <
        serverMeasure relaying := by
    intro o' forward none_open shorter
    simp only [serverMeasure, none_open, closed]
    omega
  simp only [handleBufferedResponse]
  split
  · exact ⟨(fail_acts sink _ _ _).follows, fun _ => rfl⟩
  rename_i o accepted
  have accepts := acceptMySQLServerSequence_acts accepted
  have stream := accepts.keeps.serverStream_none closed
  split
  · obtain ⟨acts, decided⟩ := finishMySQLServerLogicalPacket_spec sink
      { o with serverBuf := relaying.observer.serverBuf.drop total }
      ((relaying.observer.serverBuf.take total)[3]?.getD 0)
    have follows := accepts.follows.trans (acts.follows.after rfl)
    split
    · next decision => exact ⟨follows, fun _ => decided (by simp [decision])⟩
    · next failed => exact ⟨follows, fun _ => by simp [failed]⟩
    · have shorter := acts.keeps.serverBuf_le
      simp only [length_drop] at shorter
      exact ⟨follows, lower _ (acts.keeps.serverStream_none stream) (by omega)⟩
  · obtain ⟨acts, decided⟩ := handleServerPacket_spec sink o
      ((relaying.observer.serverBuf.take total).drop 4)
    have follows := accepts.follows.trans acts.follows
    split
    · next decision => exact ⟨follows, fun _ => decided (by simp [decision])⟩
    · next failed => exact ⟨follows, fun _ => by simp [failed]⟩
    · have shorter := (accepts.trans acts).keeps.serverBuf_le
      refine ⟨follows.trans (.of_books rfl), lower _ (acts.keeps.serverStream_none stream) ?_⟩
      simp only [length_drop]
      omega

theorem serverPass_passed (relaying : Relaying MySQLObserver) :
    ServerPassed relaying (serverPass sink relaying) := by
  simp only [serverPass]
  split
  · rename_i streaming
    have consumed :=
      consumeMySQLServerPacketStream_consumed sink relaying.observer relaying.data
    split
    · next decided => exact ⟨consumed.follows, fun _ => consumed.decided (by simp [decided])⟩
    split
    · exact ⟨consumed.follows, by simp⟩
    rename_i left
    simp only [length_drop] at left
    have shrunk := consumed.shrunk
    refine ⟨consumed.follows, ?_⟩
    simp only [serverMeasure, streaming, length_drop, if_true]
    rcases consumed.progress streaming (by omega) with taken | closed
    · split <;> omega
    · simp only [closed, isSome_none, Bool.false_eq_true, if_false]
      omega
  · rename_i idle
    have closed : relaying.observer.serverStream = none := by simpa using idle
    split
    · exact fillServer_passed sink relaying
    split
    · exact startServerStream_passed sink (by omega)
    · split
      · exact fillServer_passed sink relaying
      · exact handleBufferedResponse_passed sink (by omega) (by omega) closed

/-! ## Client commands -/

/-- The audited command a client packet carries, if it carries one. -/
def auditedCommand : Bytes → Option AuditedCommand
  | [] => none
  | command :: rest =>
    if command == mysqlCommandQuery then some .comQuery
    else if command == mysqlCommandStmtPrepare then some .comStmtPrepare
    else if command == mysqlCommandStmtExecute then
      some (.comStmtExecute (mysqlStatementID (command :: rest)))
    else if command == mysqlCommandStmtLongData then
      some (.comStmtSendLongData (mysqlStatementID (command :: rest))
        (littleEndian (((command :: rest).drop 5).take 2)))
    else none

/-- The audit text of a statement under the policy of the sink. -/
def auditText (sql : Bytes) : Bytes :=
  (databaseSQLAudit (databaseAuditPolicy sink postgresStreamAuditPreviewBytes).1
    (databaseAuditPolicy sink postgresStreamAuditPreviewBytes).2 sql).text

/-- A start is the one of a packet: it names the command, and a command that brings its text is
started under the audit copy of that text. -/
def Announces (start : AuditedCommand × Bytes × QueryRecord) (payload : Bytes) : Prop :=
  auditedCommand payload = some start.1 ∧
    (start.1 = .comQuery ∨ start.1 = .comStmtPrepare →
      start.2.1 = auditText sink (payload.drop 1))

/-- The allowed starts among `more` are those of one packet. -/
def AnnouncedBy (more : List SinkCall) (payload : Bytes) : Prop :=
  (auditedCommand payload = none ∧ allowedStarts more = []) ∨
    ∃ start, allowedStarts more = [start] ∧ Announces sink start payload

/-- What handling a client packet does to a sound observer that has not failed. -/
structure Handled (o o' : MySQLObserver) (payload : Bytes) (decision : Option QueryDecision) :
    Prop where
  sound : o'.Sound
  keeps : Keeps o o'
  announced : ∃ more, o'.calls = o.calls ++ more ∧
    (decision = none → o'.fatal = none → AnnouncedBy sink more payload)
  refused : ∀ verdict, decision = some verdict → verdict.allowed = false ∨ o'.fatal.isSome

theorem enqueueMySQLResponse_sound (sound : o.Sound) (notFatal : o.fatal = none)
    (record : QueryRecord) (recorded : Bool) (command : UInt8)
    (balanced : Ledger.Balanced (allowedRecords calls) (finishAttempts calls)
      (o.waiting ++ if recorded then [record] else [])) :
    (enqueueMySQLResponse { o with calls := calls } record recorded command).Sound := by
  constructor
  · simp [enqueueMySQLResponse, sound.recorded_length]
  · simp [enqueueMySQLResponse, sound.failed_length]
  · simp [enqueueMySQLResponse, sound.commands_length]
  · simp [enqueueMySQLResponse, sound.prepared_length]
  · exact forall_mem_append.mpr ⟨sound.none_failed, forall_mem_singleton.mpr rfl⟩
  · have zipped : (o.pendingRecorded ++ [recorded]).zip (o.pendingFailed ++ [false]) =
        o.pendingRecorded.zip o.pendingFailed ++ [(recorded, false)] :=
      zip_append (by rw [sound.recorded_length, sound.failed_length])
    have zip_length : o.pending.length = (o.pendingRecorded.zip o.pendingFailed).length := by
      simp [sound.recorded_length, sound.failed_length]
    have all : (enqueueMySQLResponse { o with calls := calls } record recorded command).waiting =
        o.waiting ++ if recorded then [record] else [] := by
      simp only [waiting, enqueueMySQLResponse, zipped]
      rw [zip_append zip_length, filterMap_append]
      cases recorded <;> rfl
    rw [all]
    exact balanced
  · simp [enqueueMySQLResponse, notFatal]

private theorem fail_handled (sound : o.Sound) (code : ErrorCode) (message : String) :
    Handled sink o (o.fail sink code message).1 payload (some (o.fail sink code message).2) := by
  have acts := fail_acts sink o code message
  obtain ⟨failed_sound, more, calls, -⟩ := acts.follows sound
  exact ⟨failed_sound, acts.keeps, ⟨more, calls, by simp⟩, fun _ _ => .inr rfl⟩

/-- Calls that neither start nor finish anything keep an observer sound. -/
private theorem Sound.record_calls (sound : o.Sound)
    (balanced : Ledger.Balanced (allowedRecords calls) (finishAttempts calls) o.waiting) :
    ({ o with calls := calls } : MySQLObserver).Sound :=
  { sound with balanced := balanced }

private theorem captureDatabaseAuditBytes_acts (o : MySQLObserver) (kind : ArtifactKind)
    (data : Bytes) :
    Acts o { o with calls := (captureDatabaseAuditBytes sink o.calls kind data).1 } := by
  obtain ⟨more, calls, quiet, attempts⟩ := captureDatabaseAuditBytes_calls sink o.calls kind data
  refine ⟨fun sound => ⟨sound.record_calls ?_, more, calls, quiet⟩, .of_buffers rfl⟩
  simpa [calls, quiet.allowedRecords, attempts] using sound.balanced

/-- A start that is not allowed refuses the packet. -/
private theorem Handled.denied (sound : o.Sound) {call : SinkCall}
    (none_allowed : allowedRecords [call] = []) (none_finished : finishAttempts [call] = [])
    (payload : Bytes) (denied : verdict.allowed = false) :
    Handled sink o { o with calls := o.calls ++ [call] } payload (some verdict) := by
  refine ⟨sound.record_calls ?_, .of_buffers rfl, ⟨_, rfl, by simp⟩, ?_⟩
  · simpa [none_allowed, none_finished] using sound.balanced
  · rintro _ ⟨⟩
    exact .inl denied

private theorem setLastMySQLPendingPrepared_sound (sound : o.Sound)
    (statement : MySQLPreparedStatement) : (o.setLastMySQLPendingPrepared statement).Sound := by
  unfold setLastMySQLPendingPrepared
  split
  · exact sound
  refine { sound with prepared_length := ?_ }
  have := sound.prepared_length
  simp only [length_append, length_dropLast, length_singleton]
  omega

private theorem setLastMySQLPendingPrepared_same (o : MySQLObserver)
    (statement : MySQLPreparedStatement) :
    (o.setLastMySQLPendingPrepared statement).calls = o.calls ∧
      (o.setLastMySQLPendingPrepared statement).buffers = o.buffers := by
  unfold setLastMySQLPendingPrepared
  split <;> exact ⟨rfl, rfl⟩

/-- A packet may be handled after work that starts nothing. -/
theorem Handled.after {decision : Option QueryDecision} (sound : o.Sound) (acts : Acts o o₁)
    (handled : Handled sink o₁ o' payload decision) : Handled sink o o' payload decision := by
  obtain ⟨-, before, before_calls, quiet⟩ := acts.follows sound
  obtain ⟨more, calls, announced⟩ := handled.announced
  refine ⟨handled.sound, acts.keeps.trans handled.keeps, ⟨before ++ more, ?_, ?_⟩, handled.refused⟩
  · rw [calls, before_calls, append_assoc]
  · intro undecided notFatal
    rcases announced undecided notFatal with ⟨unaudited, starts⟩ | ⟨start, starts, announces⟩
    · exact .inl ⟨unaudited, by simp [quiet.allowedStarts, starts]⟩
    · exact .inr ⟨start, by simp [quiet.allowedStarts, starts], announces⟩

private theorem Handled.refusal (sound : o.Sound) (payload : Bytes)
    (denied : verdict.allowed = false) : Handled sink o o payload (some verdict) :=
  ⟨sound, .refl o, ⟨[], by simp, by simp⟩, by rintro _ ⟨⟩; exact .inl denied⟩

/-- A record started under a command that announces the packet handles the packet. -/
private theorem startAndEnqueue_handled (sound : o.Sound) (notFatal : o.fatal = none)
    (audit : DatabaseSQLAudit) (named : AuditedCommand)
    (parameters : Option DatabaseAuditArtifact) (command : UInt8)
    (announces : ∀ record, Announces sink (named, audit.text, record) payload) :
    Handled sink o (o.startAndEnqueue sink audit named parameters command).1 payload
      (o.startAndEnqueue sink audit named parameters command).2 := by
  simp only [startAndEnqueue, startPreparedObservedSQLQuery, startObservedQuery]
  cases outcome : sink.startQuery o.calls audit.text (audit.withDetail named parameters) with
  | panicked => exact .denied sink sound (by simp) (by simp) payload rfl
  | returned record decision =>
    cases allowed : decision.allowed with
    | false =>
      simp only [allowed]
      exact .denied sink sound (by simp [allowed]) (by simp) payload allowed
    | true =>
      simp only [allowed]
      refine ⟨enqueueMySQLResponse_sound sound notFatal record true command ?_,
        .of_buffers rfl, ⟨_, rfl, fun _ _ => .inr ⟨(named, audit.text, record), ?_,
          announces record⟩⟩, by simp⟩
      · simpa [allowed] using sound.balanced.opening record
      · simp [allowed]

private theorem startMySQLPrepare_handled (sound : o.Sound) (notFatal : o.fatal = none)
    (audit : DatabaseSQLAudit)
    (announces : ∀ record, Announces sink (.comStmtPrepare, audit.text, record) payload) :
    Handled sink o (o.startMySQLPrepare sink audit).1 payload
      (o.startMySQLPrepare sink audit).2 := by
  have handled := startAndEnqueue_handled sink sound notFatal audit .comStmtPrepare none
    mysqlCommandStmtPrepare announces
  simp only [startMySQLPrepare]
  split
  · rename_i started
    rw [started] at handled
    exact handled
  rename_i o' started
  rw [started] at handled
  obtain ⟨same_calls, same_buffers⟩ := setLastMySQLPendingPrepared_same o' ⟨audit⟩
  have same_fatal : (o'.setLastMySQLPendingPrepared ⟨audit⟩).fatal = o'.fatal :=
    congrArg (·.2.2.2.2) same_buffers
  obtain ⟨starts, start_calls, announced⟩ := handled.announced
  exact ⟨setLastMySQLPendingPrepared_sound handled.sound _,
    handled.keeps.trans (.of_buffers same_buffers),
    ⟨starts, same_calls.trans start_calls,
      fun undecided fatal => announced undecided (same_fatal.symm.trans fatal)⟩, by simp⟩

private theorem startMySQLLongData_handled (sound : o.Sound) (audit : DatabaseSQLAudit)
    (named : AuditedCommand) (artifact : DatabaseAuditArtifact)
    (announces : ∀ record, Announces sink (named, audit.text, record) payload) :
    Handled sink o (o.startMySQLLongData sink audit named artifact).1 payload
      (o.startMySQLLongData sink audit named artifact).2 := by
  simp only [startMySQLLongData, startPreparedObservedSQLQuery, startObservedQuery]
  cases outcome : sink.startQuery o.calls audit.text (audit.withDetail named (some artifact)) with
  | panicked => exact .denied sink sound (by simp) (by simp) payload rfl
  | returned record decision =>
    cases allowed : decision.allowed with
    | false =>
      simp only [allowed]
      exact .denied sink sound (by simp [allowed]) (by simp) payload allowed
    | true =>
      let start : SinkCall := .start audit.text (audit.withDetail named (some artifact))
        (.returned record decision)
      let finish : Bool → SinkCall := .finish record { status := some .success }
      have passed : ∀ answer, ({ o with calls := o.calls ++ [start] ++ [finish answer] } :
          MySQLObserver).Sound := by
        intro answer
        apply sound.record_calls
        simpa [start, finish, allowed] using sound.balanced.passing record
      cases returned : sink.finishQuery (o.calls ++ [start]) record { status := some .success } with
      | true =>
        simp only [start] at returned
        simp only [allowed, finishObservedQuery, returned]
        refine ⟨passed true, .of_buffers rfl, ⟨_, append_assoc .., fun _ _ => ?_⟩, by simp⟩
        exact .inr ⟨(named, audit.text, record), by simp [allowed], announces record⟩
      | false =>
        simp only [start] at returned
        simp only [allowed, finishObservedQuery, returned]
        have failed := @fail_handled sink _ payload (passed false) .protocol
          "malformed MySQL command"
        obtain ⟨_, calls, -⟩ := failed.announced
        exact { failed with announced := ⟨_, calls.trans (by simp only [append_assoc]; rfl), by simp⟩ }

theorem handleMySQLText_handled (sound : o.Sound) (notFatal : o.fatal = none) (command : UInt8)
    (rest : Bytes) (text : command = mysqlCommandQuery ∨ command = mysqlCommandStmtPrepare) :
    Handled sink o (o.handleMySQLText sink command (command :: rest)).1 (command :: rest)
      (o.handleMySQLText sink command (command :: rest)).2 := by
  have captured := captureDatabaseAuditBytes_acts sink o .sql rest
  have captured_sound := (captured.follows sound).1
  simp only [handleMySQLText]
  split
  · rename_i prepared
    obtain rfl : _ = _ := (congrArg Prod.fst prepared).symm
    exact .after sink sound captured (fail_handled sink captured_sound _ _)
  rename_i audit prepared
  obtain rfl : _ = _ := (congrArg Prod.fst prepared).symm
  have text_eq : audit.text = auditText sink rest :=
    prepareAndCaptureDatabaseSQLBytes_text (congrArg Prod.snd prepared)
  refine .after sink sound captured ?_
  split
  · exact fail_handled sink captured_sound _ _
  rcases text with rfl | rfl
  · exact startAndEnqueue_handled sink captured_sound notFatal audit .comQuery none
      mysqlCommandQuery fun record => ⟨rfl, fun _ => text_eq⟩
  · exact startMySQLPrepare_handled sink captured_sound notFatal audit
      fun record => ⟨rfl, fun _ => text_eq⟩

theorem handleMySQLExecute_handled (sound : o.Sound) (notFatal : o.fatal = none)
    (statement : MySQLPreparedStatement) (rest : Bytes) :
    Handled sink o (o.handleMySQLExecute sink statement (mysqlCommandStmtExecute :: rest)).1
      (mysqlCommandStmtExecute :: rest)
      (o.handleMySQLExecute sink statement (mysqlCommandStmtExecute :: rest)).2 := by
  have captured := captureDatabaseAuditBytes_acts sink o .parameters (mysqlCommandStmtExecute :: rest)
  have captured_sound := (captured.follows sound).1
  simp only [handleMySQLExecute]
  split
  · exact fail_handled sink sound _ _
  split
  · rename_i failed
    obtain rfl : _ = _ := (congrArg Prod.fst failed).symm
    exact .after sink sound captured (fail_handled sink captured_sound _ _)
  rename_i stored
  obtain rfl : _ = _ := (congrArg Prod.fst stored).symm
  refine .after sink sound captured ?_
  exact startAndEnqueue_handled sink captured_sound notFatal statement.audit _ _ _
    fun record => ⟨rfl, by rintro (named | named) <;> cases named⟩

theorem handleMySQLLongData_handled (sound : o.Sound) (statement : MySQLPreparedStatement)
    (rest : Bytes) :
    Handled sink o (o.handleMySQLLongData sink statement (mysqlCommandStmtLongData :: rest)).1
      (mysqlCommandStmtLongData :: rest)
      (o.handleMySQLLongData sink statement (mysqlCommandStmtLongData :: rest)).2 := by
  have captured := captureDatabaseAuditBytes_acts sink o .parameters (mysqlCommandStmtLongData :: rest)
  have captured_sound := (captured.follows sound).1
  simp only [handleMySQLLongData]
  split
  · exact fail_handled sink sound _ _
  split
  · rename_i failed
    obtain rfl : _ = _ := (congrArg Prod.fst failed).symm
    exact .after sink sound captured (fail_handled sink captured_sound _ _)
  rename_i stored
  obtain rfl : _ = _ := (congrArg Prod.fst stored).symm
  refine .after sink sound captured ?_
  exact startMySQLLongData_handled sink captured_sound statement.audit _ _
    fun record => ⟨rfl, by rintro (named | named) <;> cases named⟩

theorem dispatchMySQLCommand_handled (sound : o.Sound) (notFatal : o.fatal = none)
    (statement : MySQLPreparedStatement) (command : UInt8) (rest : Bytes) :
    Handled sink o (o.dispatchMySQLCommand sink statement (command :: rest) command).1
      (command :: rest) (o.dispatchMySQLCommand sink statement (command :: rest) command).2 := by
  simp only [dispatchMySQLCommand]
  split
  · rename_i text
    exact handleMySQLText_handled sink sound notFatal command rest (by simpa using text)
  split
  · rename_i long
    obtain rfl : command = _ := by simpa using long
    exact handleMySQLLongData_handled sink sound statement rest
  split
  · rename_i execute
    obtain rfl : command = _ := by simpa using execute
    exact handleMySQLExecute_handled sink sound notFatal statement rest
  have unaudited : auditedCommand (command :: rest) = none := by
    simp_all [auditedCommand]
  have announced : ∀ (answer : Option QueryDecision) (fatal : Option QueryDecision),
      answer = none → fatal = none → AnnouncedBy sink [] (command :: rest) :=
    fun _ _ _ _ => .inl ⟨unaudited, rfl⟩
  split
  · refine ⟨enqueueMySQLResponse_sound sound notFatal .zero false command ?_,
      .of_buffers rfl, ⟨[], by simp [enqueueMySQLResponse], announced _ _⟩, by simp⟩
    simpa using sound.balanced
  · exact ⟨sound, .refl o, ⟨[], by simp, announced _ _⟩, by simp⟩

private theorem resolveMySQLStatementCommand_spec (o : MySQLObserver) (command : UInt8)
    (payload : Bytes) :
    Acts o (o.resolveMySQLStatementCommand command payload).1 ∧
      (o.resolveMySQLStatementCommand command payload).1.fatal = o.fatal ∧
      ∀ verdict, (o.resolveMySQLStatementCommand command payload).2 = .error verdict →
        verdict.allowed = false := by
  simp only [resolveMySQLStatementCommand]
  repeat' split
  · refine ⟨.refl o, rfl, ?_⟩
    rintro verdict ⟨⟩
    rfl
  · exact ⟨.of_same rfl rfl, rfl, by simp⟩
  · exact ⟨.refl o, rfl, by simp⟩
  · exact ⟨.refl o, rfl, by simp⟩

theorem handleClientPacket_handled (sound : o.Sound) (payload : Bytes) :
    Handled sink o (o.handleClientPacket sink payload).1 payload
      (o.handleClientPacket sink payload).2 := by
  unfold handleClientPacket
  split
  · exact Handled.refusal sink sound _ rfl
  rename_i command rest
  have completed := finishMySQLPrepareWithOmittedTerminator_acts sink o
  obtain ⟨completed_sound, -⟩ := completed.follows sound
  apply Handled.after sink sound completed
  generalize o.finishMySQLPrepareWithOmittedTerminator sink = o₁ at completed_sound
  dsimp only
  split
  · rename_i fatal
    refine ⟨completed_sound, .refl o₁, ⟨[], by simp, fun undecided => ?_⟩, fun _ _ => .inr fatal⟩
    change o₁.fatal = none at undecided
    simp [undecided] at fatal
  · rename_i no_fatal
    have notFatal : o₁.fatal = none := by simpa using no_fatal
    split
    · exact Handled.refusal sink completed_sound _ rfl
    split
    · exact fail_handled sink completed_sound _ _
    obtain ⟨resolved, same_fatal, refusal⟩ :=
      resolveMySQLStatementCommand_spec o₁ command (command :: rest)
    split
    · rename_i unknown
      rw [unknown] at resolved refusal
      apply Handled.after sink completed_sound resolved
      exact Handled.refusal sink (resolved.follows completed_sound).1 _ (refusal _ rfl)
    · rename_i known
      rw [known] at resolved same_fatal
      apply Handled.after sink completed_sound resolved
      exact dispatchMySQLCommand_handled sink (resolved.follows completed_sound).1
        (same_fatal.trans notFatal) _ command rest

/-! ## The client relay loop -/

/-- A packet with its header: the length in its first three bytes is that of its payload. -/
def IsPacket (packet : Bytes) : Prop :=
  4 ≤ packet.length ∧ packet.length = 4 + packetPayloadLength packet

/-- The payloads of the packets a byte stream starts with, at most `fuel` of them. -/
def packetsUpTo : ℕ → Bytes → List Bytes
  | 0, _ => []
  | fuel + 1, stream =>
    if stream.length < 4 ∨ stream.length < 4 + packetPayloadLength stream then []
    else
      (stream.take (4 + packetPayloadLength stream)).drop 4 ::
        packetsUpTo fuel (stream.drop (4 + packetPayloadLength stream))

/-- The payloads of the complete packets of a byte stream. -/
def packetPayloads (stream : Bytes) : List Bytes :=
  packetsUpTo stream.length stream

theorem packetPayloadLength_append (rest : Bytes) (header : 4 ≤ packet.length) :
    packetPayloadLength (packet ++ rest) = packetPayloadLength packet := by
  unfold packetPayloadLength
  rw [take_append_of_le_length (by omega)]

theorem packetsUpTo_flatten (proper : ∀ packet ∈ packets, IsPacket packet)
    {fuel : ℕ} (enough : packets.length ≤ fuel) :
    packetsUpTo fuel packets.flatten = packets.map (·.drop 4) := by
  induction packets generalizing fuel with
  | nil =>
    cases fuel with
    | zero => rfl
    | succ fuel => simp [packetsUpTo]
  | cons packet packets ih =>
    cases fuel with
    | zero => simp at enough
    | succ fuel =>
      obtain ⟨header, size⟩ := proper packet (by simp)
      have head := packetPayloadLength_append packets.flatten header
      have rest : packetsUpTo fuel packets.flatten = packets.map (·.drop 4) :=
        ih (fun other member => proper other (by simp [member])) (by simpa using enough)
      simp only [flatten_cons, packetsUpTo, head, ← size, length_append, map_cons]
      rw [if_neg (by omega), take_left, drop_left, rest]

theorem packetPayloads_flatten (proper : ∀ packet ∈ packets, IsPacket packet) :
    packetPayloads packets.flatten = packets.map (·.drop 4) := by
  apply packetsUpTo_flatten proper
  rw [length_flatten]
  induction packets with
  | nil => simp
  | cons packet packets ih =>
    have := (proper packet (by simp)).1
    have := ih fun other member => proper other (by simp [member])
    simp only [length_cons, map_cons, sum_cons]
    omega

/-- Payloads that carry an audited command. -/
def auditedPayloads (payloads : List Bytes) : List Bytes :=
  payloads.filter fun payload => (auditedCommand payload).isSome

/-- The forwarded bytes are whole packets, and the audited ones among them are announced, in
order, by the first allowed starts; by all of them unless the observer has failed. -/
def Covers (forwarded : Bytes) (o : MySQLObserver) : Prop :=
  ∃ packets : List Bytes, (∀ packet ∈ packets, IsPacket packet) ∧
    forwarded = packets.flatten ∧
    ∃ announcing rest, allowedStarts o.calls = announcing ++ rest ∧
      List.Forall₂ (Announces sink) announcing
        (auditedPayloads (packets.map (·.drop 4))) ∧
      (o.fatal = none → rest = [])

/-- Further calls cannot take a start back, and none may be added while nothing has failed. -/
theorem Covers.extend (covers : Covers sink forwarded o) (calls : o'.calls = o.calls ++ more)
    (unfailed : o'.fatal = none → o.fatal = none ∧ allowedStarts more = []) :
    Covers sink forwarded o' := by
  obtain ⟨packets, proper, bytes, announcing, rest, starts, announces, exact_starts⟩ := covers
  refine ⟨packets, proper, bytes, announcing, rest ++ allowedStarts more, ?_, announces, ?_⟩
  · rw [calls, allowedStarts_append, starts, append_assoc]
  · intro notFatal
    obtain ⟨before, none_more⟩ := unfailed notFatal
    rw [exact_starts before, none_more]
    rfl

/-- An announced packet may be forwarded. -/
theorem Covers.forward (covers : Covers sink forwarded o)
    (notFatal : o.fatal = none) (proper : IsPacket packet) (calls : o'.calls = o.calls ++ more)
    (announced : AnnouncedBy sink more (packet.drop 4)) : Covers sink (forwarded ++ packet) o' := by
  obtain ⟨packets, all_proper, bytes, announcing, _, starts, announces, exact_starts⟩ := covers
  have no_rest := exact_starts notFatal
  subst no_rest
  have proper_all := forall_mem_append.mpr ⟨all_proper, forall_mem_singleton.mpr proper⟩
  rcases announced with ⟨unaudited, none_more⟩ | ⟨start, one_more, announces_packet⟩
  · refine ⟨packets ++ [packet], proper_all, by simp [bytes], announcing, [], ?_, ?_, fun _ => rfl⟩
    · rw [calls, allowedStarts_append, starts, none_more, append_nil]
    · simpa [auditedPayloads, unaudited] using announces
  · refine ⟨packets ++ [packet], proper_all, by simp [bytes], announcing ++ [start], [], ?_, ?_,
      fun _ => rfl⟩
    · rw [calls, allowedStarts_append, starts, one_more]
      simp
    · have audited : (auditedCommand (packet.drop 4)).isSome := by simp [announces_packet.1]
      simp only [auditedPayloads, map_append, map_cons, filter_append, filter_cons, audited]
      exact rel_append announces (.cons announces_packet .nil)

/-- What holds at the head of the client loop, `before` being what earlier calls forwarded. -/
structure ClientInside (before : Bytes) (relaying : Relaying MySQLObserver) : Prop where
  sound : relaying.observer.Sound
  notFatal : relaying.observer.fatal = none
  covers : Covers sink (before ++ relaying.forward) relaying.observer

/-- What holds when a relay call returns, `forwarded` being all that was let through to the
server. -/
structure RelayOutside (forwarded : Bytes) (relayed : Relayed MySQLObserver) : Prop where
  sound : relayed.observer.Sound
  fatal : relayed.decision.isSome → relayed.observer.fatal.isSome
  covers : Covers sink forwarded relayed.observer

private theorem leaveFailed_outside {forward : Bytes} (sound : o'.Sound)
    (covers : Covers sink forwarded o) (calls : o'.calls = o.calls ++ more)
    (decision : QueryDecision) :
    RelayOutside sink forwarded
      { observer := (o'.failDecision sink decision).1
        forward := forward
        decision := some (o'.failDecision sink decision).2 } := by
  obtain ⟨failed_sound, last, last_calls, -⟩ := (failDecision_acts sink o' decision).follows sound
  have all_calls : (o'.failDecision sink decision).1.calls = o.calls ++ (more ++ last) := by
    rw [last_calls, calls, append_assoc]
  exact ⟨failed_sound, fun _ => rfl, covers.extend sink all_calls (by simp)⟩

/-- What a pass of the client loop comes to. -/
abbrev ClientPassed (before : Bytes) (relaying : Relaying MySQLObserver) :
    Loop.Pass (Relaying MySQLObserver) (Relayed MySQLObserver) → Prop :=
  Loop.Proceeds (ClientInside sink before)
    (fun relayed => RelayOutside sink (before ++ relayed.forward) relayed) clientMeasure relaying

private theorem fillClient_passed (inside : ClientInside sink before relaying) (limit : ℕ) :
    ClientPassed sink before relaying (fillClient sink limit relaying) := by
  simp only [fillClient]
  repeat' split
  · exact ⟨inside.sound, by simp, inside.covers⟩
  · exact leaveFailed_outside sink inside.sound inside.covers (append_nil _).symm _
  · rename_i _ buffer data appended
    have filled : Follows relaying.observer { relaying.observer with clientBuf := buffer } :=
      .of_books rfl
    obtain ⟨-, _, _, -⟩ := appendObserverBufferChunk_cases appended
    refine ⟨{ inside with sound := (filled inside.sound).1 }, ?_⟩
    simp only [clientMeasure]
    omega

private theorem isPacket_take {buffer : Bytes}
    (complete : 4 + packetPayloadLength buffer ≤ buffer.length) :
    IsPacket (buffer.take (4 + packetPayloadLength buffer)) := by
  have header : packetPayloadLength (buffer.take (4 + packetPayloadLength buffer)) =
      packetPayloadLength buffer := by
    conv_rhs => rw [← take_append_drop (4 + packetPayloadLength buffer) buffer]
    rw [packetPayloadLength_append]
    simp only [length_take]
    omega
  constructor
  · simp only [length_take]
    omega
  · simp only [length_take]
    omega

private theorem handleBufferedCommand_passed (inside : ClientInside sink before relaying)
    (complete : 4 + packetPayloadLength relaying.observer.clientBuf ≤
      relaying.observer.clientBuf.length) :
    ClientPassed sink before relaying (handleBufferedCommand sink
      (4 + packetPayloadLength relaying.observer.clientBuf) relaying) := by
  have numbered : Follows relaying.observer
      { relaying.observer with nextErrorSeq := 1, hasErrorSeq := true } :=
    .of_books rfl
  have sound := (numbered inside.sound).1
  have covers : Covers sink (before ++ relaying.forward)
      { relaying.observer with nextErrorSeq := 1, hasErrorSeq := true } := inside.covers
  have proper := isPacket_take complete
  simp only [handleBufferedCommand]
  split
  · exact leaveFailed_outside sink sound covers (append_nil _).symm _
  have handled := handleClientPacket_handled sink sound ((relaying.observer.clientBuf.take
      (4 + packetPayloadLength relaying.observer.clientBuf)).drop 4)
  generalize handleClientPacket sink _ _ = result at handled
  obtain ⟨o', decision⟩ := result
  obtain ⟨_, calls, announced⟩ := handled.announced
  dsimp only at calls announced ⊢
  split
  · exact leaveFailed_outside sink handled.sound covers calls _
  · rename_i filtered failed
    exact ⟨handled.sound, fun _ => by simp [failed],
      covers.extend sink calls fun notFatal => by simp [failed] at notFatal⟩
  · rename_i filtered notFatal
    have undecided : decision = none := by
      cases verdict : decision with
      | none => rfl
      | some verdict' =>
        rcases handled.refused verdict' verdict with denied | failed
        · simp [verdict, denied] at filtered
        · simp [notFatal] at failed
    have dropped : ∀ buffer, Follows o' { o' with clientBuf := buffer } :=
      fun _ => .of_books rfl
    have forwarded := covers.forward sink inside.notFatal proper calls
      (announced undecided notFatal)
    have shorter := handled.keeps.clientBuf_le
    refine ⟨⟨(dropped _ handled.sound).1, notFatal, ?_⟩, ?_⟩
    · rw [append_assoc] at forwarded
      exact forwarded
    · simp only [clientMeasure, length_drop]
      dsimp only at shorter
      omega

theorem clientPass_passed (inside : ClientInside sink before relaying) (limit : ℕ) :
    ClientPassed sink before relaying (clientPass sink limit relaying) := by
  simp only [clientPass]
  split
  · exact fillClient_passed sink inside limit
  split
  · exact leaveFailed_outside sink inside.sound inside.covers (append_nil _).symm _
  · split
    · exact fillClient_passed sink inside limit
    · next complete => exact handleBufferedCommand_passed sink inside (by omega)

theorem observeClientRelayBytes_outside (sound : o.Sound) (covers : Covers sink before o)
    (data : Bytes) :
    RelayOutside sink (before ++ (o.observeClientRelayBytes sink data).forward)
      (o.observeClientRelayBytes sink data) := by
  have unmoved : Covers sink (before ++ []) o := by rwa [append_nil]
  unfold observeClientRelayBytes
  split
  · next fatal failed => exact ⟨sound, fun _ => by simp [failed], unmoved⟩
  rename_i notFatal
  split
  · exact ⟨sound, by simp, unmoved⟩
  refine @Loop.run_proceeds _ _ _ (ClientInside sink before) _ _
    (fun relayed => RelayOutside sink (before ++ relayed.forward) relayed)
    (fun relaying inside => clientPass_passed sink inside _) _ ?_
  exact ⟨sound, notFatal, unmoved⟩

/-! ## The server relay loop -/

theorem observeServerRelayBytes_outside (sound : o.Sound) (covers : Covers sink before o)
    (data : Bytes) : RelayOutside sink before (o.observeServerRelayBytes sink data) := by
  unfold observeServerRelayBytes
  split
  · next fatal failed => exact ⟨sound, fun _ => by simp [failed], covers⟩
  rename_i notFatal
  split
  · exact ⟨sound, by simp, covers⟩
  refine @Loop.run_proceeds _ _ _ (fun relaying => Follows o relaying.observer) _ _ _ ?_ _ (.refl o)
  intro relaying inside
  have passed := serverPass_passed sink relaying
  cases pass : serverPass sink relaying with
  | again next =>
    rw [pass] at passed
    exact ⟨inside.trans passed.1, passed.2⟩
  | leave =>
    rw [pass] at passed
    obtain ⟨sound', _, calls, quiet⟩ := inside.trans passed.1 sound
    exact ⟨sound', passed.2, covers.extend sink calls fun _ => ⟨notFatal, quiet.allowedStarts⟩⟩

/-! ## Sessions -/

/-- The observer as the relay calls it. -/
def relay : RelayObserver MySQLObserver where
  observeClientRelayBytes := observeClientRelayBytes sink
  observeServerRelayBytes := observeServerRelayBytes sink
  abort := abort sink

/-- What every call keeps: a sound observer whose allowed starts cover what was forwarded, and
which has failed once the session has ended. -/
structure SessionSound (session : Session MySQLObserver) : Prop where
  sound : session.observer.Sound
  covers : Covers sink session.toServer session.observer
  fatal : session.ended → session.observer.fatal.isSome

theorem new_sound (maxClientMessageBytes : Int) : (new maxClientMessageBytes).Sound :=
  ⟨rfl, rfl, rfl, rfl, by simp [new], Ledger.Balanced.empty, by simp [new]⟩

theorem new_sessionSound (maxClientMessageBytes : Int) :
    SessionSound sink { observer := new maxClientMessageBytes } := by
  refine ⟨new_sound _, ?_, by simp⟩
  exact ⟨[], by simp, rfl, [], [], rfl, .nil, fun _ => rfl⟩

/-- A call to a failed observer lets nothing through and leaves it failed. -/
theorem act_failed (failed : session.observer.fatal.isSome) (call : RelayCall) :
    (session.act (relay sink) call).observer.fatal.isSome ∧
      (session.act (relay sink) call).toServer = session.toServer ∧
      (session.act (relay sink) call).toClient = session.toClient := by
  obtain ⟨_, fatal⟩ := isSome_iff_exists.mp failed
  cases call with
  | client data => simp [Session.act, relay, observeClientRelayBytes, fatal]
  | server data => simp [Session.act, relay, observeServerRelayBytes, fatal]
  | abort => simp [Session.act, relay, abort]

theorem run_failed (failed : session.observer.fatal.isSome) (calls : List RelayCall) :
    (session.run (relay sink) calls).toServer = session.toServer ∧
      (session.run (relay sink) calls).toClient = session.toClient := by
  induction calls generalizing session with
  | nil => exact ⟨rfl, rfl⟩
  | cons call calls ih =>
    obtain ⟨still, server, client⟩ := act_failed sink failed call
    rw [Session.run_cons, (ih still).1, (ih still).2, server, client]
    exact ⟨rfl, rfl⟩

theorem act_sessionSound (holds : SessionSound sink session) (call : RelayCall) :
    SessionSound sink (session.act (relay sink) call) := by
  have lasting : session.ended → (session.act (relay sink) call).observer.fatal.isSome :=
    fun ended => (act_failed sink (holds.fatal ended) call).1
  have ending : ∀ {forwarded : Bytes} {relayed : Relayed MySQLObserver},
      RelayOutside sink forwarded relayed → (session.ended → relayed.observer.fatal.isSome) →
      (session.ended || relayed.decision.isSome) → relayed.observer.fatal.isSome :=
    fun outside earlier ended => (Bool.or_eq_true_iff.mp ended).elim earlier outside.fatal
  cases call with
  | client data =>
    have outside := observeClientRelayBytes_outside sink holds.sound holds.covers data
    exact { outside with fatal := ending outside lasting }
  | server data =>
    have outside := observeServerRelayBytes_outside sink holds.sound holds.covers data
    exact { outside with fatal := ending outside lasting }
  | abort =>
    have aborted : ∀ decision, SessionSound sink { session with
          observer := (session.observer.failDecision sink decision).1, ended := true } := by
      intro decision
      obtain ⟨sound, _, calls, -⟩ :=
        (failDecision_acts sink session.observer decision).follows holds.sound
      exact ⟨sound, holds.covers.extend sink calls (by simp), fun _ => rfl⟩
    exact aborted _

theorem run_sessionSound (maxClientMessageBytes : Int) (calls : List RelayCall) : SessionSound sink
      (Session.run (relay sink) { observer := new maxClientMessageBytes } calls) :=
  Session.run_invariant (relay sink) (SessionSound sink)
    (fun _ call holds => act_sessionSound sink holds call) (new_sessionSound sink _) calls

/-- A sound failed observer has attempted to finish every allowed record, once. -/
theorem Sound.settled (sound : o.Sound) (failed : o.fatal.isSome) :
    (finishAttempts o.calls).Perm (allowedRecords o.calls) := by
  have balanced := sound.balanced
  simp only [waiting, sound.fatal_empty failed] at balanced
  exact balanced.settled

/-- In every session, whatever the sink answers: the audited commands among the forwarded packets
were announced, one by one, by the first allowed starts; no record is finished more often than it
was allowed; and once a decision was returned or the relay aborted, every allowed record has had
its one finish attempt and nothing is let through any more. -/
theorem audited_before_forward_and_finished_once (maxClientMessageBytes : Int)
    (calls : List RelayCall) :
    let session := Session.run (relay sink) { observer := new maxClientMessageBytes } calls
    (∃ announcing rest, allowedStarts session.observer.calls = announcing ++ rest ∧
        List.Forall₂ (Announces sink) announcing
          (auditedPayloads (packetPayloads session.toServer))) ∧
      (finishAttempts session.observer.calls).Subperm (allowedRecords session.observer.calls) ∧
      (session.ended →
        (finishAttempts session.observer.calls).Perm (allowedRecords session.observer.calls) ∧
          ∀ further : List RelayCall,
            (session.run (relay sink) further).toServer = session.toServer ∧
              (session.run (relay sink) further).toClient = session.toClient) := by
  intro session
  have holds : SessionSound sink session := run_sessionSound sink maxClientMessageBytes calls
  refine ⟨?_, holds.sound.balanced.closed_subperm, fun ended => ?_⟩
  · obtain ⟨_, proper, bytes, announcing, rest, starts, announces, -⟩ := holds.covers
    refine ⟨announcing, rest, starts, ?_⟩
    rw [bytes, packetPayloads_flatten proper]
    exact announces
  · exact ⟨holds.sound.settled (holds.fatal ended), run_failed sink (holds.fatal ended)⟩

end Jianmen.DBProxy.MySQLObserver
