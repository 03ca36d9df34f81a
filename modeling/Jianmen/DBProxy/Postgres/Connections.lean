import Mathlib.Data.List.Induction
import Jianmen.DBProxy.Postgres.Audit
import Jianmen.DBProxy.Postgres.Lifecycle

/-!
# PostgreSQL connections from end to end

When the relay of a connection returns, every allowed record has been finished once; and the client
gets what the server sent.
-/

namespace Jianmen.DBProxy.PostgresObserver

open List
open RelayCoordinator (step start run_moves start_pending)

variable {sink : QuerySink} {budget : Option ObserverMemoryBudget} {o o' : PostgresObserver}

/-! ## Records -/

theorem Audits.call {fromClient : Bool} (relayable : Relayable sink o) (audits : Audits sink o)
    (call : ObserverCall (lifecycle sink budget) o fromClient o') : Audits sink o' := by
  have holds : SessionSound sink { observer := o, toServer := sentBytes o, ended := true } :=
    ⟨audits, rfl, relayable.client, relayable.server, nofun⟩
  cases call with
  | client data => exact (holds.client_call sink budget data).audits
  | server data => exact (holds.server_call sink budget data).audits
  | abort code => exact (holds.abort_call sink budget code).audits
  | errorResponse decision => exact audits
  | closeObserver =>
    exact (ClientMove.buffer o.clientBuf none o.leases _ (closeCalls_quiet _)).audits sink audits

/-- However a connection is relayed, no record is finished more often than it was allowed, and when
the relay has returned, every allowed record has been finished once. -/
theorem relay_finishes_once {maxClientMessageBytes : Int} {actions : List RelayAction}
    {r : RelayCoordinator PostgresObserver} (execution : Actions.run (step (lifecycle sink budget))
      (start (new maxClientMessageBytes)) actions = some r)
    (distinct : Distinct r.observer.calls) :
    (finishAttempts r.observer.calls).Subperm (allowedRecords r.observer.calls) ∧ (r.main = [] →
      (finishAttempts r.observer.calls).Perm (allowedRecords r.observer.calls)) := by
  have settles : (lifecycle sink budget).Settles (fun o => Relayable sink o ∧ Audits sink o)
      fun o => o.fatal.isSome :=
    { stays_sound := fun sound call => ⟨sound.1.call call, sound.2.call sound.1 call⟩
      stays_ended := fun sound => lifecycle_settles.stays_ended sound.1
      stays_idle := fun sound => lifecycle_settles.stays_idle sound.1
      aborted := fun code sound => lifecycle_settles.aborted code sound.1
      denied := fun sound => lifecycle_settles.denied sound.1
      settled := fun sound => lifecycle_settles.settled sound.1 }
  have first := new_sessionSound sink maxClientMessageBytes
  have pending := run_moves (RelayCoordinator.Pending.moves settles)
    (start_pending ⟨⟨first.client, first.server, fun _ => rfl⟩, first.audits⟩) execution
  have balanced := (pending.sound.2.sound distinct).balanced
  refine ⟨balanced.closed_subperm, fun returned => ?_⟩
  rw [hasPending_eq_false.mp (pending.returned returned)] at balanced
  exact balanced.settled

/-- Two queries, the end of the client's side, and the end of the drain timer. -/
def abandonedQueries : RelayCoordinator PostgresObserver :=
  (Actions.run (step (lifecycle countingSink none)) (start (new 0))
    [.clientRead twoQueries (some .eof), .clientWrite 14 none, .clientSettle, .receive .client,
      .proceed, .timer, .proceed, .proceed, .proceed, .lock true, .writeError 999 none, .proceed,
      .serverRead [] (some .eof), .serverSettle, .receive .server, .proceed]).get
    (by decide +kernel)

theorem relay_finishes_once_abandoned :
    (allowedRecords abandonedQueries.observer.calls).length = 2 ∧
      (finishAttempts abandonedQueries.observer.calls).Perm
        (allowedRecords abandonedQueries.observer.calls) := by
  have distinct : Distinct abandonedQueries.observer.calls := by
    unfold Distinct
    decide +kernel
  have finished := (relay_finishes_once (Option.some_get _).symm distinct).2
  exact ⟨by decide +kernel, finished (by decide +kernel)⟩

/-! ## Answers -/

/-- Unless the observer fails, no client move touches what is left of the server's bytes. -/
theorem ClientMoves.serverBuf_eq (moves : ClientMoves sink o o') (unfailed : o'.fatal = none) :
    o'.serverBuf = o.serverBuf := by
  induction moves with
  | refl => rfl
  | tail _ move ih =>
    cases move with
    | buffer => exact ih unfailed
    | begin => exact ih unfailed
    | extend => exact ih unfailed
    | whole going _ observes => exact (observes.server sink).1.trans (ih going)
    | complete going _ _ observes => exact (observes.server sink).1.trans (ih going)
    | refuse refuses =>
      cases refuses with
      | failed => cases unfailed
      | denied => exact ih unfailed

/-- What the server has sent. -/
def serverBytes (calls : List RelayCall) : Bytes :=
  calls.flatMap fun
    | .server data => data
    | _ => []

/-- In every session the client gets a beginning of what the server has sent; as long as the
observer has not failed, the rest is what it holds back, at most a full buffer. -/
theorem answers_unchanged (maxClientMessageBytes : Int) (calls : List RelayCall) :
    let session := Session.run (relay sink budget) { observer := new maxClientMessageBytes } calls
    session.observer.serverBuf.length ≤ maxPostgresObserverBufferBytes ∧
      ∃ rest, serverBytes calls = session.toClient ++ rest ∧
        (session.observer.fatal = none → rest = session.observer.serverBuf) := by
  refine ⟨(run_sessionSound sink budget maxClientMessageBytes calls).server.bounded, ?_⟩
  induction calls using reverseRecOn with
  | nil => exact ⟨[], rfl, fun _ => rfl⟩
  | append_singleton calls call ih =>
    obtain ⟨rest, received, held⟩ := ih
    have holds := run_sessionSound sink budget maxClientMessageBytes calls
    simp only [Session.run, foldl_append, foldl_cons, foldl_nil] at received held holds ⊢
    generalize foldl (Session.act (relay sink budget)) _ calls = session at received held holds
    have sent : serverBytes (calls ++ [call]) = session.toClient ++ rest ++ serverBytes [call] :=
      received ▸ flatMap_append
    cases failed : session.observer.fatal with
    | some =>
      refine ⟨rest ++ serverBytes [call], ?_, ?_⟩
      all_goals
        cases call <;> simp [Session.act, relay, observeClientRelayBytes_failed budget failed,
          observeServerRelayBytes_failed failed, abort, failDecision, failed, sent]
    | none =>
      cases call with
      | client data =>
        have relayed := observeClientRelayBytes_relayed budget holds.client failed data
        exact ⟨rest, by simpa [Session.act, serverBytes] using sent, fun unfailed =>
          (held failed).trans (relayed.moves.serverBuf_eq unfailed).symm⟩
      | server data =>
        have relayed : ServerRelayed sink session.observer data _ :=
          observeServerRelayBytes_relayed holds.server failed data
        obtain ⟨last, left, -, bytes, undecided⟩ := relayed.moves
        refine ⟨last ++ left, ?_, fun unfailed => ?_⟩
        · simpa [Session.act, relay, serverBytes, held failed, bytes] using sent
        · obtain ⟨rfl, rfl⟩ := undecided (relayed.fatal.symm.trans unfailed)
          rfl
      | abort code =>
        exact ⟨rest, by simpa [Session.act, serverBytes] using sent, fun unfailed => by cases unfailed⟩

end Jianmen.DBProxy.PostgresObserver
