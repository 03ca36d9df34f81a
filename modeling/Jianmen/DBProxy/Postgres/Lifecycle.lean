import Jianmen.DBProxy.Draining
import Jianmen.DBProxy.Postgres.Run

/-!
# The PostgreSQL observer under a relay

The observer ends its pending records whenever it fails, and only client messages start new ones.
So a relay that observes a PostgreSQL connection returns with nothing pending.
-/

namespace Jianmen.DBProxy

open Postgres

/-! ## Error responses -/

/-- The code, the message and the hint a client is shown for an error of the observer. -/
def postgresProxyErrorFields : ErrorCode → Bytes × Bytes × Bytes
  | .clientMessageLimit =>
    (ascii "54000", ascii "database proxy client message exceeds the configured limit",
      ascii "increase the gateway limit, split the statement, or use COPY")
  | .bufferLimit =>
    (ascii "54000", ascii "database proxy protocol buffer limit exceeded",
      ascii "retry with a smaller protocol message")
  | .pendingLimit =>
    (ascii "54000", ascii "database proxy audit state limit exceeded",
      ascii "reduce pipelining or close unused prepared statements")
  | .protocol => (ascii "08P01", ascii "database proxy rejected a malformed protocol message", [])
  | .auditFailure => (ascii "58000", ascii "database proxy audit service is unavailable", [])
  | .relay | .drainTimeout => (ascii "08006", ascii "database proxy relay terminated", [])
  | .other _ => (ascii "42501", ascii "database proxy rejected query", [])

/-- A number in four bytes. -/
def bytes32 (number : ℕ) : Bytes :=
  [(number / 2 ^ 24).toUInt8, (number / 2 ^ 16).toUInt8, (number / 2 ^ 8).toUInt8, number.toUInt8]

def postgresMessageWithType (messageType : MessageType) (payload : Bytes) : Bytes :=
  messageType :: bytes32 (4 + payload.length) ++ payload

def postgresReadyForQuery : Bytes :=
  postgresMessageWithType readyForQueryType [idleStatus]

namespace PostgresObserver

def errorResponse (decision : QueryDecision) : Bytes :=
  let fields := postgresProxyErrorFields decision.errorCode
  let payload := ascii "SERROR" ++ 0 :: ascii "C" ++ fields.1 ++ 0 :: ascii "M" ++ fields.2.1 ++
    (if fields.2.2 = [] then [] else 0 :: ascii "H" ++ fields.2.2) ++ [0, 0]
  postgresMessageWithType errorType payload ++ postgresReadyForQuery

def hasPending (o : PostgresObserver) : Bool :=
  decide (0 < o.pending.length)

/-- `CloseObserver`: a frame that is being followed is dropped. -/
def closeObserver (o : PostgresObserver) : PostgresObserver :=
  { o with
    clientStream := none
    released := o.released ++ (o.clientStream.bind (·.lease)).toList
    calls := o.calls ++ PostgresClientFrameStream.closeCalls o.clientStream }

variable (sink : QuerySink) (budget : Option ObserverMemoryBudget)

/-- The observer as a relay uses it. -/
def lifecycle : LifecycleObserver PostgresObserver where
  toRelayObserver := relay sink budget
  hasPending := hasPending
  errorResponse o decision := (errorResponse decision, o)
  closeObserver := closeObserver

/-! ## Pending records -/

/-- A server message starts nothing. -/
theorem observePostgresServerMessage_pending (o : PostgresObserver) (messageType : MessageType)
    (payload : Bytes) :
    (observePostgresServerMessage sink o messageType payload).pending.Sublist o.pending := by
  obtain ⟨_, _, _, response⟩ := observePostgresOperationResponse_same o messageType payload
  obtain ⟨_, moved, outcome⟩ := observePostgresServerMessage_cases sink o messageType payload
  rw [response] at moved
  rcases outcome with ⟨-, same⟩ | ⟨decision, failed⟩
  · rw [same]
    exact moved.pending
  · rw [failed]
    exact List.nil_sublist _

/-- Nothing is pending once the observer has failed. -/
def FailedIdle (o : PostgresObserver) : Prop :=
  o.fatal.isSome = true → o.pending = []

variable {sink}

variable {o o' : PostgresObserver} {bytes : Bytes}

theorem FailedIdle.of_unfailed (unfailed : o.fatal = none) : FailedIdle o := by
  intro failed
  rw [unfailed] at failed
  cases failed

theorem FailedIdle.clientMoves (moves : ClientMoves sink o o') (idle : FailedIdle o) :
    FailedIdle o' := by
  induction moves with
  | refl => exact idle
  | tail _ move ih =>
    cases move with
    | buffer => exact ih
    | begin => exact ih
    | extend => exact ih
    | whole unfailed proper observes =>
      obtain ⟨-, -, fatal, -⟩ := observes.same sink
      exact .of_unfailed (fatal.trans unfailed)
    | complete unfailed _ proper observes =>
      obtain ⟨-, -, fatal, -⟩ := observes.same sink
      exact .of_unfailed (fatal.trans unfailed)
    | refuse refuses =>
      cases refuses with
      | failed quiet => exact fun _ => rfl
      | denied quiet => exact ih

theorem ServerMove.pending (move : ServerMove sink o bytes o') : o'.pending.Sublist o.pending := by
  cases move with
  | buffer => exact List.Sublist.refl _
  | answer => exact observePostgresServerMessage_pending sink o _ _
  | stream => exact List.Sublist.refl _
  | chunk => exact List.Sublist.refl _
  | fail => exact List.nil_sublist _

theorem ServerMoves.pending (moves : ServerMoves sink o bytes o') :
    o'.pending.Sublist o.pending := by
  induction moves with
  | refl => exact List.Sublist.refl _
  | tail _ move ih => exact move.pending.trans ih

theorem FailedIdle.serverMoves (moves : ServerMoves sink o bytes o') (idle : FailedIdle o) :
    FailedIdle o' := by
  induction moves with
  | refl => exact idle
  | tail _ move ih =>
    cases move with
    | buffer => exact ih
    | answer _ unfailed =>
      obtain ⟨_, kept, same | ⟨decision, failed⟩⟩ :=
        (observePostgresServerMessage_kept _ _ _ : KeptOrFailed sink _ _)
      · rw [same]
        exact .of_unfailed (kept.fatal.trans unfailed)
      · rw [failed]
        exact fun _ => rfl
    | stream => exact ih
    | chunk => exact ih
    | fail decision => exact fun _ => rfl

/-! ## Under the relay -/

/-- What holds of the observer between two calls. -/
structure Relayable (sink : QuerySink) (o : PostgresObserver) : Prop where
  client : ClientReady sink o
  server : ServerReady o
  idle : FailedIdle o

theorem Relayable.failDecision (sound : Relayable sink o) (decision : QueryDecision) :
    Relayable sink (o.failDecision sink decision).1 := by
  have buffer : (o.failDecision sink decision).1.serverBuf = [] := rfl
  have stream : (o.failDecision sink decision).1.serverStream = none := rfl
  have frame : (o.failDecision sink decision).1.clientStream = none := rfl
  have startup : (o.failDecision sink decision).1.startupDone = o.startupDone := rfl
  exact ⟨⟨startup.trans sound.client.startup, by simp [frame]⟩,
    ⟨by simp [buffer], by simp [stream]⟩, fun _ => rfl⟩

variable {budget : Option ObserverMemoryBudget}

theorem Relayable.observeClient (sound : Relayable sink o) (data : Bytes) :
    Relayable sink (observeClientRelayBytes sink budget o data).observer := by
  cases failed : o.fatal with
  | some =>
    rw [observeClientRelayBytes_failed budget failed]
    exact sound
  | none =>
    have relayed : ClientRelayed sink o (observeClientRelayBytes sink budget o data) :=
      observeClientRelayBytes_relayed budget sound.client failed data
    exact ⟨relayed.ready, relayed.moves.serverReady sound.server,
      sound.idle.clientMoves relayed.moves⟩

theorem Relayable.observeServer (sound : Relayable sink o) (data : Bytes) :
    Relayable sink (observeServerRelayBytes sink o data).observer ∧
      (observeServerRelayBytes sink o data).observer.pending.Sublist o.pending ∧
      (observeServerRelayBytes sink o data).observer.fatal =
        (observeServerRelayBytes sink o data).decision := by
  cases failed : o.fatal with
  | some decision =>
    rw [observeServerRelayBytes_failed failed]
    exact ⟨sound, List.Sublist.refl _, failed⟩
  | none =>
    have relayed : ServerRelayed sink o data (observeServerRelayBytes sink o data) :=
      observeServerRelayBytes_relayed sound.server failed data
    obtain ⟨_, _, moves, -, -⟩ := relayed.moves
    exact ⟨⟨moves.clientReady sound.client, relayed.ready, sound.idle.serverMoves moves⟩,
      moves.pending, relayed.fatal⟩

theorem Relayable.call {fromClient : Bool} (sound : Relayable sink o)
    (call : ObserverCall (lifecycle sink budget) o fromClient o') : Relayable sink o' := by
  cases call with
  | client data => exact sound.observeClient data
  | server data => exact (sound.observeServer data).1
  | abort => exact sound.failDecision _
  | errorResponse => exact sound
  | closeObserver =>
    exact ⟨⟨sound.client.startup, by simp [lifecycle, closeObserver]⟩,
      ⟨sound.server.bounded, sound.server.stream⟩, sound.idle⟩

/-- A failed observer stays failed. -/
theorem fatal_call {fromClient : Bool} (failed : o.fatal.isSome)
    (call : ObserverCall (lifecycle sink budget) o fromClient o') : o'.fatal.isSome := by
  obtain ⟨decision, fatal⟩ := Option.isSome_iff_exists.mp failed
  cases call with
  | client data =>
    change (observeClientRelayBytes sink budget o data).observer.fatal.isSome
    rw [observeClientRelayBytes_failed budget fatal]
    exact failed
  | server data =>
    change (observeServerRelayBytes sink o data).observer.fatal.isSome
    rw [observeServerRelayBytes_failed fatal]
    exact failed
  | abort => rfl
  | errorResponse decision => exact failed
  | closeObserver => exact failed

theorem hasPending_eq_false : o.hasPending = false ↔ o.pending = [] := by
  simp [hasPending]

/-- The observer ends what is pending whenever it fails, and server messages start nothing. -/
theorem lifecycle_settles :
    (lifecycle sink budget).Settles (Relayable sink) fun o => o.fatal.isSome where
  stays_sound sound call := sound.call call
  stays_ended _ failed call := fatal_call failed call
  stays_idle := by
    intro o o' sound idle call
    have nothing : o.pending = [] := hasPending_eq_false.mp idle
    apply hasPending_eq_false.mpr
    cases call with
    | server data =>
      have fewer := (sound.observeServer data).2.1
      rw [nothing, List.sublist_nil] at fewer
      exact fewer
    | abort => rfl
    | errorResponse decision => exact nothing
    | closeObserver => exact nothing
  aborted _ _ := rfl
  denied := by
    intro o data sound denial
    change (observeServerRelayBytes sink o data).observer.fatal.isSome
    rw [(sound.observeServer data).2.2]
    obtain ⟨decision, denied⟩ := Option.isSome_iff_exists.mp denial
    obtain ⟨decided, -⟩ := Option.filter_eq_some_iff.mp denied
    exact Option.isSome_iff_exists.mpr ⟨decision, decided⟩
  settled sound failed := hasPending_eq_false.mpr (sound.idle failed)

/-- A relay of a PostgreSQL connection returns with nothing pending. -/
theorem relay_returns_idle {maxClientMessageBytes : Int} {actions : List RelayAction}
    {r : RelayCoordinator PostgresObserver}
    (execution : Actions.run (RelayCoordinator.step (lifecycle sink budget))
      (RelayCoordinator.start (new maxClientMessageBytes)) actions = some r)
    (returned : r.main = []) : r.observer.pending = [] := by
  have initially : Relayable sink (new maxClientMessageBytes) :=
    ⟨⟨rfl, by simp [new]⟩, ⟨by simp [new], by simp [new]⟩, fun _ => rfl⟩
  have pending := RelayCoordinator.run_moves (RelayCoordinator.Pending.moves lifecycle_settles)
    (RelayCoordinator.start_pending initially) execution
  exact hasPending_eq_false.mp (pending.returned returned)

end PostgresObserver
end Jianmen.DBProxy
