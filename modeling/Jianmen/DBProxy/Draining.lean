import Jianmen.DBProxy.Termination

/-!
# Nothing pending at the end

When a relay returns, nothing is pending for an observer that ends what is pending when it is
aborted or denies a server chunk, and that begins nothing on server chunks.
-/

namespace Jianmen.DBProxy

open List

/-! ## Observers -/

/-- The calls of the relay on an observer; the flag marks those with client bytes. -/
inductive ObserverCall {Ω : Type} (observer : LifecycleObserver Ω) (o : Ω) : Bool → Ω → Prop where
  | client (data : Bytes) :
      ObserverCall observer o true (observer.observeClientRelayBytes o data).observer
  | server (data : Bytes) :
      ObserverCall observer o false (observer.observeServerRelayBytes o data).observer
  | abort (code : ErrorCode) : ObserverCall observer o false (observer.abort o code)
  | errorResponse (decision : QueryDecision) :
      ObserverCall observer o false (observer.errorResponse o decision).2
  | closeObserver : ObserverCall observer o false (observer.closeObserver o)

/-- The observer ends what is pending when it is aborted and when it denies a server chunk, and
begins nothing afterwards; without client bytes nothing comes to be pending. -/
structure LifecycleObserver.Settles {Ω : Type} (observer : LifecycleObserver Ω)
    (sound ended : Ω → Prop) : Prop where
  stays_sound : ∀ {o o' : Ω} {fromClient : Bool}, sound o →
    ObserverCall observer o fromClient o' → sound o'
  stays_ended : ∀ {o o' : Ω} {fromClient : Bool}, sound o → ended o →
    ObserverCall observer o fromClient o' → ended o'
  stays_idle : ∀ {o o' : Ω}, sound o → observer.hasPending o = false →
    ObserverCall observer o false o' → observer.hasPending o' = false
  aborted : ∀ {o : Ω} (code : ErrorCode), sound o → ended (observer.abort o code)
  denied : ∀ {o : Ω} {data : Bytes}, sound o →
    (observer.observeServerRelayBytes o data).denial.isSome = true →
    ended (observer.observeServerRelayBytes o data).observer
  settled : ∀ {o : Ω}, sound o → ended o → observer.hasPending o = false

/-! ## What the coordinating goroutine waits for -/

namespace RelayCoordinator

variable {Ω : Type} {observer : LifecycleObserver Ω} {r r' : RelayCoordinator Ω}
  {sound ended : Ω → Prop} {task : Task} {rest : List Task} {o : Ω}

/-- Nothing is pending, and no client bytes are going to be observed. -/
def Quiet (observer : LifecycleObserver Ω) (r : RelayCoordinator Ω) : Prop :=
  r.client = .received ∧ observer.hasPending r.observer = false

/-- Which results were taken when a task is there. -/
def Standing (r : RelayCoordinator Ω) : Task → Prop
  | .checkDrain | .second | .select => r.client = .received
  | .other => r.client = .received ∨ r.server = .received
  | _ => True

theorem Standing.mono (standing : r.Standing task)
    (client : r.client = .received → r'.client = .received)
    (server : r.server = .received → r'.server = .received) : r'.Standing task := by
  cases task with
  | checkDrain => exact client standing
  | second => exact client standing
  | select => exact client standing
  | other => exact standing.imp client server
  | _ => trivial

/-- The task comes to nothing being pending. -/
def Settling (observer : LifecycleObserver Ω) (ended : Ω → Prop) (r : RelayCoordinator Ω) :
    Task → Prop
  | .first | .other => True
  | .checkDrain | .second | .select | .abortIfPending _ | .abort _ => r.client = .received
  | .handle result =>
    r.client = .received ∧ (result.decision.isSome = true → ended r.observer) ∧
      (result.decision = none → result.error ≠ none) ∧
      (result.error = some .drainComplete → observer.hasPending r.observer = false)
  | _ => False

structure Pending (observer : LifecycleObserver Ω) (sound ended : Ω → Prop)
    (r : RelayCoordinator Ω) : Prop where
  sound : sound r.observer
  clientResult : ∀ result, r.client = .finished result → result.side = .client
  serverResult : ∀ result, r.server = .finished result → result.side = .server ∧
    (result.decision = none → result.error ≠ none) ∧
    (result.error = some .drainComplete → r.Quiet observer)
  denied : r.server.denies = true → ended r.observer
  drain : r.drainClient = true → r.client = .received
  standing : ∀ task ∈ r.main, r.Standing task
  settling : r.Quiet observer ∨ ∃ task ∈ r.main, r.Settling observer ended task

/-- A step without client bytes. -/
structure Idles (observer : LifecycleObserver Ω) (r r' : RelayCoordinator Ω) : Prop where
  client : r'.client = r.client
  observer : r'.observer = r.observer ∨ ObserverCall observer r.observer false r'.observer

variable (settles : observer.Settles sound ended)
include settles

section

variable (idles : Idles observer r r') (sound_r : sound r.observer)
include idles sound_r

theorem Idles.still_sound : sound r'.observer := by
  rcases idles.observer with same | call
  · rw [same]
    exact sound_r
  · exact settles.stays_sound sound_r call

theorem Idles.still_ended (ended_r : ended r.observer) : ended r'.observer := by
  rcases idles.observer with same | call
  · rw [same]
    exact ended_r
  · exact settles.stays_ended sound_r ended_r call

theorem Idles.still_idle (idle : observer.hasPending r.observer = false) :
    observer.hasPending r'.observer = false := by
  rcases idles.observer with same | call
  · rw [same]
    exact idle
  · exact settles.stays_idle sound_r idle call

theorem Idles.quiet (quiet : r.Quiet observer) : r'.Quiet observer :=
  ⟨idles.client.trans quiet.1, idles.still_idle settles sound_r quiet.2⟩

theorem Idles.settling {task : Task} (settling : r.Settling observer ended task) :
    r'.Settling observer ended task := by
  cases task with
  | first => trivial
  | other => trivial
  | checkDrain => exact idles.client.trans settling
  | second => exact idles.client.trans settling
  | select => exact idles.client.trans settling
  | abortIfPending code => exact idles.client.trans settling
  | abort code => exact idles.client.trans settling
  | handle =>
    obtain ⟨client, decision, error, drained⟩ := settling
    exact ⟨idles.client.trans client,
      fun some => idles.still_ended settles sound_r (decision some), error,
        fun complete => idles.still_idle settles sound_r (drained complete)⟩
  | discard => exact settling
  | report decision => exact settling
  | lock => exact settling
  | writeError => exact settling
  | close => exact settling
  | closeObserver => exact settling

end

/-- A step of the coordinating goroutine that takes no result. -/
theorem Pending.advance (pending : r.Pending observer sound ended) (tasks : List Task)
    (idles : Idles observer r r') (server : r'.server = r.server)
    (drain : r'.drainClient = r.drainClient)
    (main : r.main = task :: rest) (main' : r'.main = tasks ++ rest)
    (standing : ∀ task ∈ tasks, r'.Standing task)
    (settling : r.Settling observer ended task →
      r'.Quiet observer ∨ ∃ task ∈ tasks, r'.Settling observer ended task) :
    r'.Pending observer sound ended := by
  refine ⟨idles.still_sound settles pending.sound, ?_, ?_, ?_, ?_, ?_, ?_⟩
  · rw [idles.client]
    exact pending.clientResult
  · rw [server]
    intro result finished
    obtain ⟨side, error, drained⟩ := pending.serverResult result finished
    exact ⟨side, error, fun complete => idles.quiet settles pending.sound (drained complete)⟩
  · rw [server]
    exact fun denies => idles.still_ended settles pending.sound (pending.denied denies)
  · rw [drain, idles.client]
    exact pending.drain
  · rw [main']
    intro which member
    rcases mem_append.mp member with new | old
    · exact standing which new
    · exact (pending.standing which (main ▸ mem_cons_of_mem _ old)).mono
        idles.client.trans server.trans
  · rcases pending.settling with quiet | ⟨which, member, will⟩
    · exact .inl (idles.quiet settles pending.sound quiet)
    · rw [main] at member
      rcases mem_cons.mp member with rfl | later
      · apply (settling will).imp_right
        rintro ⟨which, new, will⟩
        exact ⟨which, main' ▸ mem_append_left _ new, will⟩
      · exact .inr ⟨which, main' ▸ mem_append_right _ later,
          idles.settling settles pending.sound will⟩

/-- Handling a result settles what is pending, if nothing else does. -/
theorem handle_settles (sound_r : sound r.observer) {result : RelayResult}
    (settling : r.Settling observer ended (.handle result)) :
    Quiet observer { r with main := r.handleRelayTermination observer result ++ rest } ∨
      ∃ task ∈ r.handleRelayTermination observer result, Settling observer ended
        { r with main := r.handleRelayTermination observer result ++ rest } task := by
  obtain ⟨client, decision, error, drained⟩ := settling
  unfold handleRelayTermination
  split
  · rename_i some_decision
    exact .inl ⟨client, settles.settled sound_r (decision (by simp [some_decision]))⟩
  rename_i no_decision
  split
  · rename_i plain
    rcases plain with none_error | complete
    · exact absurd none_error (error no_decision)
    · exact .inl ⟨client, drained complete⟩
  · split
    · exact .inr ⟨.abortIfPending .relay, by simp, client⟩
    · next idle => exact .inl ⟨client, by simpa using idle⟩

theorem Pending.main (pending : r.Pending observer sound ended) (move : MainMove observer r r') :
    r'.Pending observer sound ended := by
  obtain ⟨client, server, -, -, -, drain⟩ := move.copiers
  cases move with
  | timer main =>
    have taken := pending.standing .select (main ▸ mem_cons_self)
    refine pending.advance settles
      [.abortIfPending .drainTimeout, .report drainTimeoutDecision, .close, .discard]
      ⟨client, .inl rfl⟩ server drain main rfl
      (by simp [Standing]) fun _ => ?_
    exact .inr ⟨.abortIfPending .drainTimeout, by simp, taken⟩
  | checkDrain main =>
    have taken := pending.standing .checkDrain (main ▸ mem_cons_self)
    refine pending.advance settles [_] ⟨client, .inl rfl⟩ server drain main
      rfl ?_ fun _ => .inr ⟨_, mem_singleton_self _, ?_⟩
    · intro task member
      rw [mem_singleton.mp member]
      split
      · exact taken
      · exact taken
    · split
      · exact taken
      · exact taken
  | handle main =>
    refine pending.advance settles _ ⟨client, .inl rfl⟩ server drain main rfl ?_
      (handle_settles settles pending.sound)
    intro task member
    unfold handleRelayTermination at member
    repeat' split at member
    all_goals simp only [mem_cons, not_mem_nil, or_false] at member
    · rw [member]
      trivial
    · rcases member with rfl | rfl
      · trivial
      · trivial
  | @abortIfPending code rest main =>
    cases left : observer.hasPending r.observer with
    | true =>
      exact pending.advance settles [.abort code] ⟨client, .inl rfl⟩ server drain main rfl
        (by simp [Standing]) fun taken => .inr ⟨.abort code, by simp, taken⟩
    | false =>
      exact pending.advance settles [] ⟨client, .inl rfl⟩ server drain main rfl (by simp)
        fun taken => .inl ⟨taken, left⟩
  | @abort code rest main =>
    have call : ObserverCall observer r.observer false (observer.abort r.observer code) :=
      .abort code
    refine pending.advance settles [] ⟨client, .inr call⟩ server drain main
      rfl (by simp) fun taken => .inl ⟨taken, ?_⟩
    exact settles.settled (settles.stays_sound pending.sound call)
      (settles.aborted code pending.sound)
  | @report decision rest main =>
    exact pending.advance settles [_] ⟨client, .inr (.errorResponse decision)⟩ server drain
      main rfl (by simp [Standing]) nofun
  | close main =>
    exact pending.advance settles [] ⟨client, .inl rfl⟩ server drain main rfl (by simp) nofun
  | closeObserver main =>
    exact pending.advance settles [] ⟨client, .inr .closeObserver⟩ server drain main rfl
      (by simp) nofun
  | @lock response rest deadlineSet main free =>
    by_cases dropped : response = [] ∨ !deadlineSet
    · exact pending.advance settles [] ⟨client, .inl rfl⟩ server drain main
        (if_pos dropped) (by simp) nofun
    · exact pending.advance settles [.writeError response] ⟨client, .inl rfl⟩ server drain main
        (if_neg dropped) (by simp [Standing]) nofun
  | giveUp main =>
    exact pending.advance settles [] ⟨client, .inl rfl⟩ server drain main rfl (by simp) nofun
  | @writeError left rest count error main =>
    by_cases last : error.isSome ∨ count = 0 ∨ left.length ≤ count
    · exact pending.advance settles [] ⟨client, .inl rfl⟩ server drain main
        (if_pos last) (by simp) nofun
    · exact pending.advance settles [.writeError (left.drop count)] ⟨client, .inl rfl⟩ server
        drain main (if_neg last) (by simp [Standing]) nofun

/-! ## Copying -/

omit settles in
/-- The goroutine that copies from the client goes on. -/
theorem ClientMove.busy (move : ClientMove observer r r') :
    r.client ≠ .received ∧ (∀ result, r'.client = .finished result → result.side = .client) ∧
      (r'.observer = r.observer ∨ ObserverCall observer r.observer true r'.observer) := by
  cases move with
  | read data error reads =>
    refine ⟨by simp [reads], ?_, ?_⟩
    · unfold clientRead
      intro result finished
      split at finished
      · cases finished
      dsimp only at finished
      split at finished
      · cases finished
      · cases finished
    · unfold clientRead
      split
      · exact .inl rfl
      · exact .inr (.client data)
  | write _ error writes =>
    exact ⟨by simp [writes], fun result finished => (Copier.write_finished finished).side, .inl rfl⟩
  | settle settles =>
    exact ⟨by simp [settles], fun result finished => (Copier.settle_finished finished).side,
      .inl rfl⟩

theorem Pending.client (pending : r.Pending observer sound ended)
    (move : ClientMove observer r r') : r'.Pending observer sound ended := by
  obtain ⟨busy, side, calls⟩ := move.busy
  obtain ⟨server, main, -, drain, -⟩ := move.server
  have loud : ¬r.Quiet observer := fun quiet => busy quiet.1
  refine ⟨?_, side, ?_, ?_, ?_, ?_, ?_⟩
  · rcases calls with same | call
    · rw [same]
      exact pending.sound
    · exact settles.stays_sound pending.sound call
  · rw [server]
    intro result finished
    obtain ⟨side, error, drained⟩ := pending.serverResult result finished
    exact ⟨side, error, fun complete => absurd (drained complete) loud⟩
  · rw [server]
    intro denies
    rcases calls with same | call
    · rw [same]
      exact pending.denied denies
    · exact settles.stays_ended pending.sound (pending.denied denies) call
  · rw [drain]
    exact fun drained => absurd (pending.drain drained) busy
  · rw [main]
    intro task member
    refine (pending.standing task member).mono (fun taken => absurd taken busy) fun taken => ?_
    rw [server]
    exact taken
  · rw [main]
    rcases pending.settling with quiet | ⟨task, member, will⟩
    · exact absurd quiet loud
    · refine .inr ⟨task, member, ?_⟩
      cases task with
      | first => trivial
      | other => trivial
      | handle result => exact absurd will.1 busy
      | checkDrain => exact absurd will busy
      | second => exact absurd will busy
      | select => exact absurd will busy
      | abortIfPending code => exact absurd will busy
      | abort code => exact absurd will busy
      | _ => exact will.elim

omit settles in
theorem ServerMove.idles (move : ServerMove observer r r') :
    Idles observer r r' ∧ r.server ≠ .received := by
  obtain ⟨client, -, -⟩ := move.client
  cases move with
  | read data error reads =>
    refine ⟨⟨client, ?_⟩, by simp [reads]⟩
    unfold serverRead
    split
    · exact .inl rfl
    · exact .inr (.server data)
  | refused locks => exact ⟨⟨client, .inl rfl⟩, by simp [locks]⟩
  | lock locks => exact ⟨⟨client, .inl rfl⟩, by simp [locks]⟩
  | write _ error writes => exact ⟨⟨client, .inl rfl⟩, by simp [writes]⟩
  | settle settles => exact ⟨⟨client, .inl rfl⟩, by simp [settles]⟩

section

variable (pending : r.Pending observer sound ended)
include pending

/-- What the server's side comes to. -/
theorem Pending.serverOutcome (move : ServerMove observer r r') :
    (∀ result, r'.server = .finished result → result.side = .server ∧
      (result.decision = none → result.error ≠ none) ∧
      (result.error = some .drainComplete → r'.Quiet observer)) ∧
    (r'.server.denies → ended r'.observer) := by
  cases move with
  | read _ error =>
    unfold serverRead
    split
    · exact ⟨nofun, nofun⟩
    dsimp only
    refine ⟨fun result finished => ?_, fun denies => ?_⟩
    · split at finished
      · cases finished
      · cases finished
    · apply settles.denied pending.sound
      split at denies
      · exact denies
      · exact denies
  | refused locks =>
    refine ⟨fun result finished => ?_, nofun⟩
    cases finished
    exact ⟨rfl, nofun, nofun⟩
  | lock locks =>
    refine ⟨nofun, fun denies => pending.denied ?_⟩
    rw [locks]
    exact denies
  | write _ error writes =>
    refine ⟨fun result finished => ?_, fun denies => pending.denied ?_⟩
    · have outcome := Copier.write_finished finished
      exact ⟨outcome.side, outcome.error, fun complete =>
        absurd (outcome.drained complete) Bool.false_ne_true⟩
    · rw [writes]
      exact Copier.write_denies denies
  | settle settling =>
    refine ⟨fun result finished => ?_, fun denies => pending.denied ?_⟩
    · have outcome := Copier.settle_finished finished
      refine ⟨outcome.side, outcome.error, fun complete => ?_⟩
      obtain ⟨draining, idle⟩ := Bool.and_eq_true_iff.mp (outcome.drained complete)
      exact ⟨pending.drain draining, by simpa using idle⟩
    · rw [settling]
      exact Copier.settle_denies denies

theorem Pending.server (move : ServerMove observer r r') : r'.Pending observer sound ended := by
  obtain ⟨idles, busy⟩ := move.idles
  obtain ⟨result, denied⟩ := pending.serverOutcome settles move
  obtain ⟨main, -, drain⟩ := move.main
  refine ⟨idles.still_sound settles pending.sound, ?_, result, denied, ?_, ?_, ?_⟩
  · rw [idles.client]
    exact pending.clientResult
  · rw [drain, idles.client]
    exact pending.drain
  · rw [main]
    exact fun task member => (pending.standing task member).mono idles.client.trans fun taken =>
      absurd taken busy
  · rw [main]
    apply pending.settling.imp (idles.quiet settles pending.sound)
    rintro ⟨task, member, will⟩
    exact ⟨task, member, idles.settling settles pending.sound will⟩

/-! ## Results -/

omit settles in
/-- After a result was taken. -/
theorem Pending.taken (tasks : List Task) {r₁ : RelayCoordinator Ω} {result : RelayResult}
    (takes : Takes r result r₁) {drained : Bool} {task : Task} {rest : List Task}
    (main : r.main = task :: rest) (drain : drained = true → r₁.client = .received)
    (standing : ∀ task ∈ tasks, r₁.Standing task)
    (settling : r.Settling observer ended task → ∃ task ∈ tasks, r₁.Settling observer ended task) :
    Pending observer sound ended { r₁ with drainClient := drained, main := tasks ++ rest } := by
  have mono : ∀ task, r.Standing task → r₁.Standing task := by
    intro task before
    cases takes with
    | client finished => exact before.mono (fun _ => rfl) id
    | server finished => exact before.mono id fun _ => rfl
  have stands : ∀ task ∈ tasks ++ rest, r₁.Standing task := by
    intro which member
    rcases mem_append.mp member with new | old
    · exact standing which new
    · exact mono which (pending.standing which (main ▸ mem_cons_of_mem _ old))
  have same : r₁.observer = r.observer := by
    cases takes with
    | client finished => rfl
    | server finished => rfl
  have later : ∀ which, r.Settling observer ended which → r₁.Settling observer ended which := by
    intro which will
    cases takes with
    | server finished => cases which <;> exact will
    | client finished =>
      have busy : r.client ≠ .received := by simp [finished]
      cases which with
      | first => trivial
      | other => trivial
      | handle result => exact absurd will.1 busy
      | checkDrain => exact absurd will busy
      | second => exact absurd will busy
      | select => exact absurd will busy
      | abortIfPending code => exact absurd will busy
      | abort code => exact absurd will busy
      | _ => exact will.elim
  have settled : r₁.Quiet observer ∨ ∃ task ∈ tasks ++ rest, r₁.Settling observer ended task := by
    rcases pending.settling with quiet | ⟨which, member, will⟩
    · cases takes with
      | client finished => cases finished.symm.trans quiet.1
      | server finished => exact .inl quiet
    · rw [main] at member
      rcases mem_cons.mp member with rfl | old
      · obtain ⟨which, new, will⟩ := settling will
        exact .inr ⟨which, mem_append_left _ new, will⟩
      · exact .inr ⟨which, mem_append_right _ old, later which will⟩
  have observes : sound r₁.observer := same ▸ pending.sound
  refine ⟨observes, ?_, ?_, ?_, drain, fun which member => ?_, ?_⟩
  · cases takes with
    | client finished => exact nofun
    | server finished => exact pending.clientResult
  · cases takes with
    | client finished =>
      intro result ends
      obtain ⟨side, error, complete⟩ := pending.serverResult result ends
      exact ⟨side, error, fun drained => absurd (complete drained).1 (by simp [finished])⟩
    | server finished => exact nofun
  · cases takes with
    | client finished => exact pending.denied
    | server finished => exact nofun
  · exact (stands which member).mono id id
  · apply settled.imp id
    rintro ⟨which, member, will⟩
    exact ⟨which, member, by cases which <;> exact will⟩

omit settles in
theorem Pending.receive (move : ReceiveMove r r') : r'.Pending observer sound ended := by
  cases move with
  | @ended r₁ result rest takes main side =>
    have taken : r₁.client = .received := by
      cases takes with
      | client finished => rfl
      | server finished =>
        cases side.symm.trans (pending.serverResult result finished).1
    exact pending.taken [.checkDrain] takes main (fun _ => taken)
      (by simpa [Standing] using taken) fun _ => ⟨.checkDrain, by simp, taken⟩
  | @first r₁ result rest takes main =>
    refine pending.taken [.handle result, .close, .other] takes main
      ?_ ?_ fun _ => ⟨.other, by simp, trivial⟩
    · cases takes with
      | client finished => exact fun _ => rfl
      | server finished => exact pending.drain
    · cases takes with
      | client finished => simp [Standing]
      | server finished => simp [Standing]
  | @second r₁ result rest takes main =>
    have taken : r.client = .received := by
      rcases main with main | main
      · exact pending.standing .second (main ▸ mem_cons_self)
      · exact pending.standing .select (main ▸ mem_cons_self)
    cases takes with
    | client finished => cases finished.symm.trans taken
    | server finished =>
      obtain ⟨-, error, drained⟩ := pending.serverResult result finished
      have settling : Settling observer ended { r with server := .received } (.handle result) :=
        ⟨taken, fun some => pending.denied (by rw [finished]; exact some), error,
          fun complete => (drained complete).2⟩
      rcases main with main | main
      · exact pending.taken [.handle result, .close] (.server finished) main pending.drain
          (by simp [Standing]) fun _ => ⟨.handle result, by simp, settling⟩
      · exact pending.taken [.handle result, .close] (.server finished) main pending.drain
          (by simp [Standing]) fun _ => ⟨.handle result, by simp, settling⟩
  | @discard r₁ result rest takes main =>
    refine pending.taken [] takes main ?_ (by simp) nofun
    cases takes with
    | client finished => exact fun _ => rfl
    | server finished => exact pending.drain
  | @other r₁ result rest takes main =>
    have taken : r₁.client = .received := by
      cases takes with
      | client finished => rfl
      | server finished =>
        rcases pending.standing .other (main ▸ mem_cons_self) with client | server
        · exact client
        · cases finished.symm.trans server
    exact pending.taken [.abortIfPending .relay] takes main
      (fun _ => taken) (by simp [Standing]) fun _ => ⟨.abortIfPending .relay, by simp, taken⟩

theorem Pending.moves (moves : Moves observer r r') : r'.Pending observer sound ended := by
  cases moves with
  | client move => exact pending.client settles move
  | server move => exact pending.server settles move
  | receive move => exact pending.receive move
  | main move => exact pending.main settles move

end

omit settles in
theorem start_pending (initially : sound o) : (start o).Pending observer sound ended where
  sound := initially
  clientResult := nofun
  serverResult := nofun
  denied := nofun
  drain := nofun
  standing := by simp [start, Standing]
  settling := .inr ⟨.first, by simp [start], trivial⟩

omit settles in
theorem Pending.returned (pending : r.Pending observer sound ended) (returned : r.main = []) :
    observer.hasPending r.observer = false := by
  rcases pending.settling with quiet | ⟨task, member, -⟩
  · exact quiet.2
  · rw [returned] at member
    cases member

/-! ## Runs -/

omit settles in
theorem run_moves {invariant : RelayCoordinator Ω → Prop}
    (keeps : ∀ {r r' : RelayCoordinator Ω}, invariant r → Moves observer r r' → invariant r')
    {actions : List RelayAction} (initially : invariant (start o))
    (execution : Actions.run (step observer) (start o) actions = some r) : invariant r := by
  exact Actions.run_keeps (fun _ _ _ before taken => keeps before (step_moves taken)) initially
    execution

omit settles in
/-- However the goroutines and the drain timer are scheduled and whatever the connections do: the
client gets a beginning of what the observer forwarded and after it at most one error response, or
a beginning of one; the server gets a beginning of what the observer forwarded; and when the relay
returns, both connections are closed, and nothing is pending for an observer that settles. -/
theorem relay_ends (observer : LifecycleObserver Ω) (o : Ω) (actions : List RelayAction)
    (r : RelayCoordinator Ω)
    (execution : Actions.run (step observer) (start o) actions = some r) :
    (∃ copied reported, r.clientWritten = copied ++ reported ∧ copied <+: r.serverForwarded ∧
        r.responses.length ≤ 1 ∧ reported <+: r.responses.flatten) ∧
      r.upstreamWritten <+: r.clientForwarded ∧
      (r.main = [] → r.closed = true ∧ ∀ sound ended : Ω → Prop, observer.Settles sound ended →
        sound o → observer.hasPending r.observer = false) := by
  have written : ∃ copied reported, r.Written copied reported := by
    refine run_moves Written.moves ⟨[], [], rfl, rfl, nofun, ?_⟩ execution
    exact Reporting.of_plain (by simp [start, Task.reports]) (by simp [start, Task.plain])
      List.nil_prefix fun _ => rfl
  have upstream : r.Upstream := run_moves Upstream.moves rfl execution
  have closing : r.Closing :=
    run_moves Closing.moves (.inr ⟨.first, List.mem_cons_self, rfl⟩) execution
  refine ⟨?_, upstream.prefix, fun returned => ⟨?_, fun sound ended settles initially => ?_⟩⟩
  · obtain ⟨copied, reported, written⟩ := written
    refine ⟨copied, reported, written.parts, written.aligned.prefix, ?_, written.reporting.partly⟩
    exact Nat.le_trans (Nat.le_add_right _ _) written.reporting.count
  · rcases closing with closed | ⟨task, member, -⟩
    · exact closed
    · rw [returned] at member
      cases member
  · exact (run_moves (Pending.moves settles) (start_pending initially) execution).returned returned

end RelayCoordinator

/-- An observer with one record, which is pending from the client's bytes on until the server
answers; without a state it has ended.  An answer of two bytes is denied, and `keeps` says whether
the observer goes on then. -/
def countingObserver (keeps : Bool) : LifecycleObserver (Option Bool) where
  observeClientRelayBytes state data :=
    { observer := state.map fun _ => true, forward := data, decision := none }
  observeServerRelayBytes state data :=
    if data.length = 2 then
      { observer := if keeps then state else none, forward := []
        decision := some newObserverRelayDecision }
    else { observer := state.map fun _ => false, forward := data, decision := none }
  abort _ _ := none
  hasPending state := state == some true
  errorResponse state _ := (ascii "no", state)
  closeObserver state := state

theorem countingObserver_settles :
    (countingObserver false).Settles (fun _ => True) (fun state => state = none) where
  stays_sound _ _ := trivial
  stays_ended := by
    rintro o o' fromClient - rfl call
    cases call with
    | client data => rfl
    | server data =>
      simp only [countingObserver]
      split
      · rfl
      · rfl
    | abort code => rfl
    | errorResponse decision => rfl
    | closeObserver => rfl
  stays_idle := by
    rintro o o' - idle call
    cases call with
    | server data =>
      simp only [countingObserver]
      split
      · rfl
      · cases o with
        | none => rfl
        | some => rfl
    | abort code => rfl
    | errorResponse decision => exact idle
    | closeObserver => exact idle
  aborted _ _ := rfl
  denied := by
    intro o data _ denial
    simp only [countingObserver] at denial ⊢
    split at denial
    · next two => simp [two]
    · cases denial
  settled := by
    rintro o - rfl
    rfl

namespace RelayCoordinator

/-- A request, the end of the client's side, and an answer that is denied. -/
def deniedAnswer : List RelayAction :=
  [.clientRead (ascii "q") none, .clientWrite 1 none, .clientSettle, .clientRead [] (some .eof),
    .clientSettle, .receive .client, .proceed, .serverRead (ascii "ab") none, .serverSettle,
    .receive .server, .proceed, .proceed, .lock true, .writeError 1 none, .writeError 1 none,
    .proceed, .proceed]

/-- A request, the end of the client's side, a part of an answer, and the end of the drain timer. -/
def timedOut : List RelayAction :=
  [.clientRead (ascii "q") none, .clientWrite 1 none, .clientSettle, .serverRead (ascii "abc") none,
    .serverLock, .serverWrite 1 none, .clientRead (ascii "r") (some .eof), .clientWrite 1 none,
    .clientSettle, .receive .client, .proceed, .timer, .proceed, .proceed, .proceed,
    .serverWrite 1 (some .other), .lock true, .writeError 1 (some .other), .proceed,
    .receive .server, .proceed]

theorem relay_ends_timedOut :
    (Actions.run (step (countingObserver false)) (start (some false)) timedOut).map (fun r =>
        (r.clientWritten, r.upstreamWritten, r.main)) = some (ascii "abn", ascii "qr", []) ∧
    ∀ r, Actions.run (step (countingObserver false)) (start (some false)) timedOut = some r →
      r.main = [] → r.closed = true ∧ (countingObserver false).hasPending r.observer = false := by
  refine ⟨by decide +kernel, fun r execution returned => ?_⟩
  obtain ⟨-, -, ends⟩ := relay_ends (countingObserver false) (some false) timedOut r execution
  obtain ⟨closed, settled⟩ := ends returned
  exact ⟨closed, settled _ _ countingObserver_settles trivial⟩

/-- The relay returns with a record pending that the observer did not end when it denied the
answer. -/
theorem relay_leaves_pending :
    (Actions.run (step (countingObserver true)) (start (some false)) deniedAnswer).map (fun r =>
        (r.clientWritten, r.main, r.closed, (countingObserver true).hasPending r.observer)) =
      some (ascii "no", [], true, true) := by
  decide +kernel

end RelayCoordinator
end Jianmen.DBProxy
