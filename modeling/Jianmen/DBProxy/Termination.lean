import Jianmen.DBProxy.Coordinator

/-!
# How a relay ends

Whatever the connections do and however the goroutines are scheduled, the server gets a beginning of
what the observer forwarded, the client gets a beginning of it and at most one error response behind
it, and both connections are closed when the relay returns.
-/

namespace Jianmen.DBProxy

open List

/-! ## Copied bytes -/

variable {drained : Bool} {result : RelayResult} {side : RelaySide}

namespace Copier

/-- What is written of what was forwarded. -/
def Aligned (copier : Copier) (written forwarded : Bytes) : Prop :=
  match copier with
  | .reading | .settling _ => written = forwarded
  | .locking forward _ => written ++ forward = forwarded
  | .writing left _ => written ++ left = forwarded
  | .finished _ | .received => written <+: forwarded

variable {side : RelaySide} {pass : PassEnd} {written forwarded left : Bytes} {copier : Copier}
  {count : ℕ} {error : Option ConnError}

theorem Aligned.prefix (aligned : copier.Aligned written forwarded) : written <+: forwarded := by
  cases copier with
  | reading => exact ⟨[], (append_nil _).trans aligned⟩
  | settling pass => exact ⟨[], (append_nil _).trans aligned⟩
  | locking forward pass => exact ⟨forward, aligned⟩
  | writing left pass => exact ⟨left, aligned⟩
  | finished => exact aligned
  | received => exact aligned

theorem Aligned.afterWrite (aligned : (Copier.writing left pass).Aligned written forwarded)
    (count : ℕ) (error : Option ConnError) :
    (write side left pass count error).Aligned (written ++ left.take count) forwarded := by
  have parts : written ++ left.take count ++ left.drop count = forwarded := by
    rw [append_assoc, take_append_drop]
    exact aligned
  have early : written ++ left.take count <+: forwarded := ⟨_, parts⟩
  unfold write
  cases error with
  | some error => exact early
  | none =>
    dsimp only
    split
    · exact early
    split
    · rename_i all
      rw [drop_eq_nil_of_le all, append_nil] at parts
      exact parts
    · exact parts

theorem Aligned.afterSettle (aligned : (Copier.settling pass).Aligned written forwarded) :
    (settle side drained pass).Aligned written forwarded := by
  have same : written <+: forwarded := aligned.prefix
  unfold settle
  split
  · exact same
  split
  · exact same
  · split
    · exact same
    · exact aligned

/-- A denial is on its way, or has become the result. -/
def denies : Copier → Bool
  | .locking _ pass | .writing _ pass | .settling pass => pass.denial.isSome
  | .finished result => result.decision.isSome
  | .reading | .received => false

/-- What is known of a result. -/
structure Outcome (side : RelaySide) (denial drained : Bool) (result : RelayResult) : Prop where
  side : result.side = side
  denial : result.decision.isSome = true → denial = true
  error : result.decision = none → result.error ≠ none
  drained : result.error = some .drainComplete → drained = true

theorem write_finished (finished : write side left pass count error = .finished result) :
    Outcome side pass.denial.isSome false result := by
  unfold write at finished
  split at finished
  · cases finished
    exact ⟨rfl, nofun, nofun, nofun⟩
  split at finished
  · cases finished
    exact ⟨rfl, nofun, nofun, nofun⟩
  · split at finished
    · cases finished
    · cases finished

theorem write_denies (denies : (write side left pass count error).denies) : pass.denial.isSome := by
  unfold write at denies
  split at denies
  · cases denies
  split at denies
  · cases denies
  · split at denies
    · exact denies
    · exact denies

theorem settle_finished (finished : settle side drained pass = .finished result) :
    Outcome side pass.denial.isSome drained result := by
  unfold settle at finished
  split at finished
  · rename_i denial
    cases finished
    exact ⟨rfl, fun _ => by simp [denial], nofun, nofun⟩
  split at finished
  · rename_i complete
    cases finished
    exact ⟨rfl, nofun, nofun, fun _ => (Bool.and_eq_true_iff.mp complete).2⟩
  split at finished
  · cases finished
    exact ⟨rfl, nofun, nofun, nofun⟩
  · cases finished

theorem settle_denies (denies : (settle side drained pass).denies) :
    pass.denial.isSome := by
  unfold settle at denies
  split at denies
  · next decision denial => simp [denial]
  split at denies
  · cases denies
  · split at denies
    · cases denies
    · cases denies

end Copier

/-! ## Steps -/

namespace RelayCoordinator

variable {Ω : Type} {observer : LifecycleObserver Ω} {r r' : RelayCoordinator Ω}

/-- The steps of the goroutine that copies from the client. -/
inductive ClientMove (observer : LifecycleObserver Ω) (r : RelayCoordinator Ω) :
    RelayCoordinator Ω → Prop where
  | read (data : Bytes) (error : Option ConnError) (reads : r.client = .reading) :
      ClientMove observer r (r.clientRead observer data error)
  | write {left : Bytes} {pass : PassEnd} (count : ℕ) (error : Option ConnError)
      (writes : r.client = .writing left pass) :
      ClientMove observer r
        { r with
          upstreamWritten := r.upstreamWritten ++ left.take count
          client := .write .client left pass count error }
  | settle {pass : PassEnd} (settles : r.client = .settling pass) :
      ClientMove observer r { r with client := .settle .client false pass }

/-- The steps of the goroutine that copies from the server. -/
inductive ServerMove (observer : LifecycleObserver Ω) (r : RelayCoordinator Ω) :
    RelayCoordinator Ω → Prop where
  | read (data : Bytes) (error : Option ConnError) (reads : r.server = .reading) :
      ServerMove observer r (r.serverRead observer data error)
  | refused {forward : Bytes} {pass : PassEnd} (locks : r.server = .locking forward pass) :
      ServerMove observer r
        { r with server := .finished { side := .server, error := some (.connection .other) } }
  | lock {forward : Bytes} {pass : PassEnd} (locks : r.server = .locking forward pass)
      (going : r.terminal = false) :
      ServerMove observer r { r with server := .writing forward pass }
  | write {left : Bytes} {pass : PassEnd} (count : ℕ) (error : Option ConnError)
      (writes : r.server = .writing left pass) :
      ServerMove observer r
        { r with
          clientWritten := r.clientWritten ++ left.take count
          server := .write .server left pass count error }
  | settle {pass : PassEnd} (settles : r.server = .settling pass) :
      ServerMove observer r
        { r with
          server := .settle .server (r.drainClient && !observer.hasPending r.observer) pass }

/-- A result is taken. -/
inductive Takes (r : RelayCoordinator Ω) : RelayResult → RelayCoordinator Ω → Prop where
  | client {result : RelayResult} (finished : r.client = .finished result) :
      Takes r result { r with client := .received }
  | server {result : RelayResult} (finished : r.server = .finished result) :
      Takes r result { r with server := .received }

/-- The steps of the coordinating goroutine that take a result. -/
inductive ReceiveMove (r : RelayCoordinator Ω) : RelayCoordinator Ω → Prop where
  | ended {r₁ : RelayCoordinator Ω} {result : RelayResult} {rest : List Task}
      (takes : Takes r result r₁) (main : r.main = .first :: rest) (side : result.side = .client) :
      ReceiveMove r { r₁ with drainClient := true, main := .checkDrain :: rest }
  | first {r₁ : RelayCoordinator Ω} {result : RelayResult} {rest : List Task}
      (takes : Takes r result r₁) (main : r.main = .first :: rest) :
      ReceiveMove r { r₁ with main := .handle result :: .close :: .other :: rest }
  | second {r₁ : RelayCoordinator Ω} {result : RelayResult} {rest : List Task}
      (takes : Takes r result r₁) (main : r.main = .second :: rest ∨ r.main = .select :: rest) :
      ReceiveMove r { r₁ with main := .handle result :: .close :: rest }
  | discard {r₁ : RelayCoordinator Ω} {result : RelayResult} {rest : List Task}
      (takes : Takes r result r₁) (main : r.main = .discard :: rest) :
      ReceiveMove r { r₁ with main := rest }
  | other {r₁ : RelayCoordinator Ω} {result : RelayResult} {rest : List Task}
      (takes : Takes r result r₁) (main : r.main = .other :: rest) :
      ReceiveMove r { r₁ with main := .abortIfPending .relay :: rest }

/-- The other steps of the coordinating goroutine. -/
inductive MainMove (observer : LifecycleObserver Ω) (r : RelayCoordinator Ω) :
    RelayCoordinator Ω → Prop where
  | timer {rest : List Task} (main : r.main = .select :: rest) :
      MainMove observer r
        { r with
          main := .abortIfPending .drainTimeout :: .report drainTimeoutDecision :: .close ::
            .discard :: rest }
  | checkDrain {rest : List Task} (main : r.main = .checkDrain :: rest) :
      MainMove observer r
        { r with main := (if observer.hasPending r.observer then .select else .second) :: rest }
  | handle {result : RelayResult} {rest : List Task} (main : r.main = .handle result :: rest) :
      MainMove observer r { r with main := r.handleRelayTermination observer result ++ rest }
  | abortIfPending {code : ErrorCode} {rest : List Task}
      (main : r.main = .abortIfPending code :: rest) :
      MainMove observer r
        { r with main := if observer.hasPending r.observer then .abort code :: rest else rest }
  | abort {code : ErrorCode} {rest : List Task} (main : r.main = .abort code :: rest) :
      MainMove observer r { r with observer := observer.abort r.observer code, main := rest }
  | report {decision : QueryDecision} {rest : List Task}
      (main : r.main = .report decision :: rest) :
      MainMove observer r
        { r with
          observer := (observer.errorResponse r.observer decision).2
          responses := r.responses ++ [(observer.errorResponse r.observer decision).1]
          main := .lock (observer.errorResponse r.observer decision).1 :: rest }
  | close {rest : List Task} (main : r.main = .close :: rest) :
      MainMove observer r { r with closed := true, main := rest }
  | closeObserver {rest : List Task} (main : r.main = .closeObserver :: rest) :
      MainMove observer r
        { r with observer := observer.closeObserver r.observer, main := rest }
  | lock {response : Bytes} {rest : List Task} (deadlineSet : Bool)
      (main : r.main = .lock response :: rest) (free : r.server.isWriting = false) :
      MainMove observer r
        { r with
          terminal := true
          main := if response = [] ∨ !deadlineSet then rest else .writeError response :: rest }
  | giveUp {response : Bytes} {rest : List Task} (main : r.main = .lock response :: rest) :
      MainMove observer r { r with main := rest }
  | writeError {left : Bytes} {rest : List Task} (count : ℕ) (error : Option ConnError)
      (main : r.main = .writeError left :: rest) :
      MainMove observer r
        { r with
          clientWritten := r.clientWritten ++ left.take count
          main :=
            if error.isSome ∨ count = 0 ∨ left.length ≤ count then rest
            else .writeError (left.drop count) :: rest }

theorem take_takes (taken : r.take side = some (result, r')) : Takes r result r' := by
  cases side with
  | client =>
    simp only [take] at taken
    split at taken
    · rename_i finished
      cases taken
      exact .client finished
    · cases taken
  | server =>
    simp only [take] at taken
    split at taken
    · rename_i finished
      cases taken
      exact .server finished
    · cases taken

theorem Takes.main {r₁ : RelayCoordinator Ω} (takes : Takes r result r₁) : r₁.main = r.main := by
  cases takes with
  | client finished => rfl
  | server finished => rfl

theorem receive_moves (received : r.receive side = some r') : ReceiveMove r r' := by
  unfold receive at received
  split at received
  · cases received
  rename_i taken
  have takes := take_takes taken
  have same := takes.main
  split at received
  · rename_i rest main
    rw [same] at main
    split at received
    · rename_i ended
      cases received
      exact .ended takes main ended.1
    · cases received
      exact .first takes main
  · rename_i rest main
    rw [same] at main
    cases received
    exact .second takes (.inl main)
  · rename_i rest main
    rw [same] at main
    cases received
    exact .second takes (.inr main)
  · rename_i rest main
    rw [same] at main
    cases received
    exact .discard takes main
  · rename_i rest main
    rw [same] at main
    cases received
    exact .other takes main
  · cases received

theorem proceed_moves (proceeds : r.proceed observer = some r') : MainMove observer r r' := by
  unfold proceed at proceeds
  split at proceeds
  · rename_i main
    cases proceeds
    exact .checkDrain main
  · rename_i main
    cases proceeds
    exact .handle main
  · rename_i main
    cases proceeds
    exact .abortIfPending main
  · rename_i main
    cases proceeds
    exact .abort main
  · rename_i main
    cases proceeds
    exact .report main
  · rename_i main
    cases proceeds
    exact .close main
  · rename_i main
    cases proceeds
    exact .closeObserver main
  · cases proceeds

/-- A step is one of a copying goroutine or one of the coordinating goroutine. -/
inductive Moves (observer : LifecycleObserver Ω) (r r' : RelayCoordinator Ω) : Prop where
  | client (move : ClientMove observer r r')
  | server (move : ServerMove observer r r')
  | receive (move : ReceiveMove r r')
  | main (move : MainMove observer r r')

theorem step_moves {action : RelayAction} (taken : r.step observer action = some r') :
    Moves observer r r' := by
  cases action with
  | clientRead data error =>
    simp only [step] at taken
    split at taken
    · rename_i reads
      cases taken
      exact .client (.read data error reads)
    · cases taken
  | clientWrite count error =>
    simp only [step] at taken
    split at taken
    · rename_i writes
      cases taken
      exact .client (.write count error writes)
    · cases taken
  | clientSettle =>
    simp only [step] at taken
    split at taken
    · rename_i settles
      cases taken
      exact .client (.settle settles)
    · cases taken
  | serverRead data error =>
    simp only [step] at taken
    split at taken
    · rename_i reads
      cases taken
      exact .server (.read data error reads)
    · cases taken
  | serverLock =>
    simp only [step] at taken
    split at taken
    · rename_i locks
      split at taken
      · cases taken
      split at taken
      · cases taken
        exact .server (.refused locks)
      · rename_i going
        cases taken
        exact .server (.lock locks (by simpa using going))
    · cases taken
  | serverWrite count error =>
    simp only [step] at taken
    split at taken
    · rename_i writes
      cases taken
      exact .server (.write count error writes)
    · cases taken
  | serverSettle =>
    simp only [step] at taken
    split at taken
    · rename_i settles
      cases taken
      exact .server (.settle settles)
    · cases taken
  | receive => exact .receive (receive_moves taken)
  | timer =>
    simp only [step] at taken
    split at taken
    · rename_i main
      cases taken
      exact .main (.timer main)
    · cases taken
  | proceed => exact .main (proceed_moves taken)
  | lock deadlineSet =>
    simp only [step] at taken
    split at taken
    · rename_i main
      split at taken
      · cases taken
      · rename_i free
        cases taken
        exact .main (.lock deadlineSet main (by simpa using free))
    · cases taken
  | giveUp =>
    simp only [step] at taken
    split at taken
    · rename_i main
      split at taken
      · cases taken
        exact .main (.giveUp main)
      · cases taken
    · cases taken
  | writeError count error =>
    simp only [step] at taken
    split at taken
    · rename_i main
      cases taken
      exact .main (.writeError count error main)
    · cases taken

/-! ## What is written to the server -/

/-- The server's connection has a beginning of what was forwarded. -/
def Upstream (r : RelayCoordinator Ω) : Prop :=
  r.client.Aligned r.upstreamWritten r.clientForwarded

theorem ServerMove.client (move : ServerMove observer r r') :
    r'.client = r.client ∧ r'.upstreamWritten = r.upstreamWritten ∧
      r'.clientForwarded = r.clientForwarded := by
  cases move with
  | read _ error =>
    unfold serverRead
    split
    · exact ⟨rfl, rfl, rfl⟩
    · exact ⟨rfl, rfl, rfl⟩
  | refused locks => exact ⟨rfl, rfl, rfl⟩
  | lock locks => exact ⟨rfl, rfl, rfl⟩
  | write _ error => exact ⟨rfl, rfl, rfl⟩
  | settle => exact ⟨rfl, rfl, rfl⟩

theorem MainMove.copiers (move : MainMove observer r r') :
    r'.client = r.client ∧ r'.server = r.server ∧ r'.upstreamWritten = r.upstreamWritten ∧
      r'.clientForwarded = r.clientForwarded ∧ r'.serverForwarded = r.serverForwarded ∧
      r'.drainClient = r.drainClient := by
  cases move with
  | timer main => exact ⟨rfl, rfl, rfl, rfl, rfl, rfl⟩
  | checkDrain main => exact ⟨rfl, rfl, rfl, rfl, rfl, rfl⟩
  | handle main => exact ⟨rfl, rfl, rfl, rfl, rfl, rfl⟩
  | abortIfPending main => exact ⟨rfl, rfl, rfl, rfl, rfl, rfl⟩
  | abort main => exact ⟨rfl, rfl, rfl, rfl, rfl, rfl⟩
  | report main => exact ⟨rfl, rfl, rfl, rfl, rfl, rfl⟩
  | close main => exact ⟨rfl, rfl, rfl, rfl, rfl, rfl⟩
  | closeObserver main => exact ⟨rfl, rfl, rfl, rfl, rfl, rfl⟩
  | lock _ main => exact ⟨rfl, rfl, rfl, rfl, rfl, rfl⟩
  | giveUp main => exact ⟨rfl, rfl, rfl, rfl, rfl, rfl⟩
  | writeError _ _ main => exact ⟨rfl, rfl, rfl, rfl, rfl, rfl⟩

/-- Taking a result changes what the coordinating goroutine has to do, and that the result is there
no longer. -/
theorem ReceiveMove.taken (move : ReceiveMove r r') : ∃ result r₁ drained main, Takes r result r₁ ∧
      r' = { r₁ with drainClient := drained, main := main } := by
  cases move with
  | ended takes main => exact ⟨_, _, _, _, takes, rfl⟩
  | first takes main => exact ⟨_, _, _, _, takes, rfl⟩
  | second takes main => exact ⟨_, _, _, _, takes, rfl⟩
  | discard takes main => exact ⟨_, _, _, _, takes, rfl⟩
  | other takes main => exact ⟨_, _, _, _, takes, rfl⟩

theorem Upstream.moves (upstream : r.Upstream) (moves : Moves observer r r') : r'.Upstream := by
  unfold Upstream at upstream ⊢
  cases moves with
  | client move =>
    cases move with
    | read _ error reads =>
      rw [reads] at upstream
      unfold clientRead
      split
      · exact upstream
      dsimp only
      split
      · rename_i nothing
        rw [nothing, append_nil]
        exact upstream
      · exact congrArg (· ++ _) upstream
    | write count error writes =>
      rw [writes] at upstream
      exact upstream.afterWrite count error
    | settle settles =>
      rw [settles] at upstream
      exact upstream.afterSettle
  | server move =>
    obtain ⟨client, written, forwarded⟩ := move.client
    rw [client, written, forwarded]
    exact upstream
  | receive move =>
    obtain ⟨_, _, _, main, takes, rfl⟩ := move.taken
    cases takes with
    | client finished =>
      rw [finished] at upstream
      exact upstream
    | server finished => exact upstream
  | main move =>
    obtain ⟨client, -, written, forwarded, -, -⟩ := move.copiers
    rw [client, written, forwarded]
    exact upstream

end RelayCoordinator

/-! ## What is reported -/

namespace Task

/-- How many errors a task may still report. -/
def reports : Task → ℕ
  | .first | .checkDrain | .second | .select | .handle _ | .report _ => 1
  | _ => 0

/-- The task is not about an error that is being written. -/
def plain : Task → Bool
  | .lock _ | .writeError _ => false
  | _ => true

/-- The task comes to closing the connections. -/
def closes : Task → Bool
  | .first | .checkDrain | .second | .select | .close => true
  | _ => false

end Task

/-- What was reported so far, and what is to be reported. -/
structure Reporting (main : List Task) (terminal : Bool) (responses : List Bytes)
    (reported : Bytes) : Prop where
  count : responses.length + (main.map Task.reports).sum ≤ 1
  plain : ∀ task ∈ main.tail, task.plain = true
  partly : reported <+: responses.flatten
  locking : ∀ response rest, main = .lock response :: rest →
    reported = [] ∧ responses = [response]
  writing : ∀ left rest, main = .writeError left :: rest →
    reported ++ left = responses.flatten ∧ terminal = true
  silent : terminal = false → reported = []

namespace Reporting

variable {main rest tasks : List Task} {task : Task} {terminal : Bool} {responses : List Bytes}
  {reported : Bytes}

/-- A list of plain tasks is about no error that is being written. -/
theorem of_plain (count : responses.length + (main.map Task.reports).sum ≤ 1)
    (plain : ∀ task ∈ main, task.plain) (partly : reported <+: responses.flatten)
    (silent : terminal = false → reported = []) : Reporting main terminal responses reported where
  count := count
  plain task member := plain task (mem_of_mem_tail member)
  partly := partly
  locking response rest same := by
    have := plain (.lock response) (same ▸ mem_cons_self)
    cases this
  writing left rest same := by
    have := plain (.writeError left) (same ▸ mem_cons_self)
    cases this
  silent := silent

/-- Plain tasks that report no more take the place of a task. -/
theorem advance (reporting : Reporting (task :: rest) terminal responses reported)
    (plain : ∀ task ∈ tasks, task.plain)
    (fewer : (tasks.map Task.reports).sum ≤ task.reports) :
    Reporting (tasks ++ rest) terminal responses reported := by
  refine of_plain ?_ ?_ reporting.partly reporting.silent
  · have count := reporting.count
    simp only [map_cons, sum_cons, map_append, sum_append] at count ⊢
    omega
  · intro following member
    rcases mem_append.mp member with new | old
    · exact plain following new
    · exact reporting.plain following old

/-- The error response is there. -/
theorem report {decision : QueryDecision}
    (reporting : Reporting (.report decision :: rest) terminal responses reported)
    (response : Bytes) :
    Reporting (.lock response :: rest) terminal (responses ++ [response]) reported := by
  have count := reporting.count
  simp only [map_cons, sum_cons, Task.reports] at count
  obtain rfl : responses = [] := length_eq_zero_iff.mp (by omega)
  have nothing : reported = [] := prefix_nil.mp reporting.partly
  refine ⟨?_, reporting.plain, ?_, ?_, nofun, reporting.silent⟩
  · simp only [map_cons, sum_cons, Task.reports, nil_append, length_singleton]
    omega
  · rw [nothing]
    exact nil_prefix
  · intro other rest same
    cases same
    exact ⟨nothing, rfl⟩

/-- The lock is there, and the error is written if it can be. -/
theorem lock {response : Bytes} {dropped : Prop} [Decidable dropped]
    (reporting : Reporting (.lock response :: rest) terminal responses reported) :
    Reporting (if dropped then rest else .writeError response :: rest) true responses reported := by
  obtain ⟨rfl, rfl⟩ := reporting.locking response rest rfl
  have count := reporting.count
  simp only [map_cons, sum_cons, Task.reports, Nat.zero_add] at count
  split
  · exact of_plain count reporting.plain reporting.partly nofun
  refine ⟨?_, reporting.plain, reporting.partly, nofun, ?_, nofun⟩
  · simpa only [map_cons, sum_cons, Task.reports, Nat.zero_add] using count
  · intro left rest same
    cases same
    exact ⟨by simp, rfl⟩

/-- Some bytes of the error are written. -/
theorem write {left : Bytes} {last : Prop} [Decidable last]
    (reporting : Reporting (.writeError left :: rest) terminal responses reported) (count : ℕ) :
    Reporting (if last then rest else .writeError (left.drop count) :: rest) terminal responses
      (reported ++ left.take count) := by
  obtain ⟨parts, locked⟩ := reporting.writing left rest rfl
  have total := reporting.count
  simp only [map_cons, sum_cons, Task.reports, Nat.zero_add] at total
  have going : terminal = false → reported ++ left.take count = [] := fun unlocked =>
    absurd (locked.symm.trans unlocked) (by decide)
  have parts' : reported ++ left.take count ++ left.drop count = responses.flatten := by
    rw [append_assoc, take_append_drop]
    exact parts
  split
  · exact of_plain total reporting.plain ⟨_, parts'⟩ going
  refine ⟨?_, reporting.plain, ⟨_, parts'⟩, nofun, ?_, going⟩
  · simpa only [map_cons, sum_cons, Task.reports, Nat.zero_add] using total
  · intro left rest same
    cases same
    exact ⟨parts', locked⟩

end Reporting

/-! ## What is written to the client -/

namespace RelayCoordinator

variable {Ω : Type} {observer : LifecycleObserver Ω} {r r' : RelayCoordinator Ω}
  {copied reported : Bytes} {task : Task} {rest : List Task}

/-- The client's connection has a beginning of what was forwarded and then what was reported; the
server's side has stopped writing once an error may be written. -/
structure Written (r : RelayCoordinator Ω) (copied reported : Bytes) : Prop where
  parts : r.clientWritten = copied ++ reported
  aligned : r.server.Aligned copied r.serverForwarded
  alone : r.terminal = true → r.server.isWriting = false
  reporting : Reporting r.main r.terminal r.responses reported

theorem ClientMove.server (move : ClientMove observer r r') :
    r'.server = r.server ∧ r'.main = r.main ∧ r'.terminal = r.terminal ∧
      r'.drainClient = r.drainClient ∧ r'.closed = r.closed ∧
      r'.serverForwarded = r.serverForwarded ∧ r'.clientWritten = r.clientWritten ∧
      r'.responses = r.responses := by
  cases move with
  | read _ error =>
    unfold clientRead
    split
    · exact ⟨rfl, rfl, rfl, rfl, rfl, rfl, rfl, rfl⟩
    · exact ⟨rfl, rfl, rfl, rfl, rfl, rfl, rfl, rfl⟩
  | write _ error => exact ⟨rfl, rfl, rfl, rfl, rfl, rfl, rfl, rfl⟩
  | settle => exact ⟨rfl, rfl, rfl, rfl, rfl, rfl, rfl, rfl⟩

theorem isWriting_settle {pass : PassEnd} :
    (Copier.settle side drained pass).isWriting = false := by
  unfold Copier.settle
  repeat' split
  all_goals rfl

theorem Written.unlocked (written : r.Written copied reported) :
    r.server.isWriting → r.terminal = false := by
  intro writes
  cases terminal : r.terminal with
  | false => rfl
  | true => cases writes.symm.trans (written.alone terminal)

theorem Written.server (written : r.Written copied reported) (move : ServerMove observer r r') :
    ∃ copied, r'.Written copied reported := by
  have aligned := written.aligned
  cases move with
  | read _ error reads =>
    rw [reads] at aligned
    refine ⟨copied, ?_⟩
    unfold serverRead
    split
    · exact ⟨written.parts, aligned, fun _ => rfl, written.reporting⟩
    refine ⟨written.parts, ?_, ?_, written.reporting⟩
    · dsimp only
      split
      · rename_i nothing
        rw [nothing, append_nil]
        exact aligned
      · exact congrArg (· ++ _) aligned
    · intro _
      dsimp only
      split
      · rfl
      · rfl
  | refused locks =>
    exact ⟨copied, written.parts, aligned.prefix, fun _ => rfl, written.reporting⟩
  | lock locks going =>
    rw [locks] at aligned
    exact ⟨copied, written.parts, aligned, fun terminal => absurd (terminal.symm.trans going)
      (by decide), written.reporting⟩
  | @write left pass count error writes =>
    rw [writes] at aligned
    have going : r.terminal = false := written.unlocked (by rw [writes]; rfl)
    obtain rfl := written.reporting.silent going
    refine ⟨copied ++ left.take count, ?_, aligned.afterWrite count error,
      fun terminal => absurd (terminal.symm.trans going) (by decide), written.reporting⟩
    simpa using written.parts
  | settle settles =>
    rw [settles] at aligned
    exact ⟨copied, written.parts, aligned.afterSettle, fun _ => isWriting_settle, written.reporting⟩

/-- The coordinating goroutine goes on with plain tasks that report no more. -/
theorem Written.advance (written : r.Written copied reported) (tasks : List Task)
    (main : r.main = task :: rest) (plain : ∀ task ∈ tasks, task.plain)
    (fewer : (tasks.map Task.reports).sum ≤ task.reports) :
    Reporting (tasks ++ rest) r.terminal r.responses reported := by
  have reporting := written.reporting
  rw [main] at reporting
  exact reporting.advance plain fewer

theorem Written.receive (written : r.Written copied reported) (move : ReceiveMove r r') :
    r'.Written copied reported := by
  have taken : ∀ {result r₁ drained} {main : List Task}, Takes r result r₁ →
      Reporting main r.terminal r.responses reported →
      Written { r₁ with drainClient := drained, main := main } copied reported := by
    intro result r₁ drained main takes reporting
    cases takes with
    | client finished => exact { written with reporting := reporting }
    | server finished => exact ⟨written.parts, written.aligned.prefix, fun _ => rfl, reporting⟩
  cases move with
  | ended takes main =>
    exact taken takes (written.advance [.checkDrain] main (by decide) (by decide))
  | @first r₁ result rest takes main =>
    refine @taken result r₁ r₁.drainClient _ takes
      (written.advance [.handle result, .close, .other] main ?_ ?_)
    · simp [Task.plain]
    · simp [Task.reports]
  | @second r₁ result rest takes main =>
    apply @taken result r₁ r₁.drainClient _ takes
    rcases main with main | main
    · refine written.advance [.handle result, .close] main ?_ ?_
      · simp [Task.plain]
      · simp [Task.reports]
    · refine written.advance [.handle result, .close] main ?_ ?_
      · simp [Task.plain]
      · simp [Task.reports]
  | @discard r₁ result rest takes main =>
    exact @taken result r₁ r₁.drainClient _ takes (written.advance [] main (by decide) (by decide))
  | @other r₁ result rest takes main =>
    exact @taken result r₁ r₁.drainClient _ takes
      (written.advance [.abortIfPending .relay] main (by decide) (by decide))

theorem handleRelayTermination_plain (result : RelayResult) :
    (∀ task ∈ r.handleRelayTermination observer result, task.plain) ∧
      ((r.handleRelayTermination observer result).map Task.reports).sum ≤ 1 := by
  unfold handleRelayTermination
  repeat' split
  all_goals simp [Task.plain, Task.reports]

theorem Written.main (written : r.Written copied reported) (move : MainMove observer r r') :
    ∃ reported, r'.Written copied reported := by
  have goes : ∀ {main : List Task}, Reporting main r.terminal r.responses reported →
      ∃ reported, Written { r with main := main } copied reported :=
    fun reporting => ⟨reported, written.parts, written.aligned, written.alone, reporting⟩
  cases move with
  | @timer rest main =>
    exact goes (written.advance [.abortIfPending .drainTimeout,
      .report drainTimeoutDecision, .close, .discard] main (by decide) (by decide))
  | @checkDrain rest main =>
    refine goes (written.advance [_] main ?_ ?_)
    · split
      · decide
      · decide
    · split
      · decide
      · decide
  | @handle result rest main =>
    obtain ⟨plain, few⟩ := @handleRelayTermination_plain _ observer r result
    exact goes (written.advance _ main plain few)
  | @abortIfPending code rest main =>
    apply goes
    split
    · exact written.advance [.abort code] main (by simp [Task.plain]) (by simp [Task.reports])
    · exact written.advance [] main (by simp) (by simp)
  | @abort code rest main =>
    have reporting := written.advance [] main (by simp) (by simp)
    exact ⟨reported, written.parts, written.aligned, written.alone, reporting⟩
  | report main =>
    have reporting := written.reporting
    rw [main] at reporting
    exact ⟨reported, written.parts, written.aligned, written.alone, reporting.report _⟩
  | close main =>
    have reporting := written.advance [] main (by simp) (by simp)
    exact ⟨reported, written.parts, written.aligned, written.alone, reporting⟩
  | closeObserver main =>
    have reporting := written.advance [] main (by simp) (by simp)
    exact ⟨reported, written.parts, written.aligned, written.alone, reporting⟩
  | lock _ main free =>
    have reporting := written.reporting
    rw [main] at reporting
    exact ⟨reported, written.parts, written.aligned, fun _ => free, reporting.lock⟩
  | giveUp main => exact goes (written.advance [] main (by simp) (by simp))
  | @writeError left rest count error main =>
    have reporting := written.reporting
    rw [main] at reporting
    refine ⟨reported ++ left.take count, ?_, written.aligned, written.alone, reporting.write count⟩
    rw [written.parts, append_assoc]

theorem Written.moves (written : ∃ copied reported, r.Written copied reported)
    (moves : Moves observer r r') : ∃ copied reported, r'.Written copied reported := by
  obtain ⟨copied, reported, written⟩ := written
  cases moves with
  | client move =>
    obtain ⟨server, main, terminal, -, -, forwarded, client, responses⟩ := move.server
    refine ⟨copied, reported, ?_, ?_, ?_, ?_⟩
    · rw [client]
      exact written.parts
    · rw [server, forwarded]
      exact written.aligned
    · rw [terminal, server]
      exact written.alone
    · rw [main, terminal, responses]
      exact written.reporting
  | server move =>
    obtain ⟨copied, written⟩ := written.server move
    exact ⟨copied, reported, written⟩
  | receive move => exact ⟨copied, reported, written.receive move⟩
  | main move => exact ⟨copied, written.main move⟩

/-! ## Closing -/

/-- The connections are closed, or are going to be. -/
def Closing (r : RelayCoordinator Ω) : Prop :=
  r.closed = true ∨ ∃ task ∈ r.main, task.closes = true

/-- A task goes, and others come that close the connections if it did. -/
theorem Closing.advance (closing : r.Closing) (tasks : List Task) (main : r.main = task :: rest)
    (closes : task.closes → r'.closed ∨ ∃ task ∈ tasks, task.closes)
    (stays : r.closed → r'.closed) (main' : r'.main = tasks ++ rest) :
    r'.Closing := by
  rcases closing with closed | ⟨which, member, willClose⟩
  · exact .inl (stays closed)
  · rw [main] at member
    rcases mem_cons.mp member with rfl | later
    · apply (closes willClose).imp_right
      rintro ⟨which, new, willClose⟩
      exact ⟨which, main' ▸ mem_append_left _ new, willClose⟩
    · exact .inr ⟨which, main' ▸ mem_append_right _ later, willClose⟩

theorem Takes.closed {r₁ : RelayCoordinator Ω} (takes : Takes r result r₁) :
    r₁.closed = r.closed := by
  cases takes with
  | client finished => rfl
  | server finished => rfl

theorem Closing.receive (closing : r.Closing) (move : ReceiveMove r r') : r'.Closing := by
  cases move with
  | ended takes main =>
    exact closing.advance [.checkDrain] main
      (fun _ => .inr ⟨.checkDrain, by simp, rfl⟩) takes.closed.trans rfl
  | @first r₁ result rest takes main =>
    exact closing.advance [.handle result, .close, .other] main
      (fun _ => .inr ⟨.close, by simp, rfl⟩) takes.closed.trans rfl
  | @second r₁ result rest takes main =>
    rcases main with main | main
    · exact closing.advance [.handle result, .close] main
        (fun _ => .inr ⟨.close, by simp, rfl⟩) takes.closed.trans rfl
    · exact closing.advance [.handle result, .close] main
        (fun _ => .inr ⟨.close, by simp, rfl⟩) takes.closed.trans rfl
  | discard takes main =>
    exact closing.advance [] main nofun takes.closed.trans rfl
  | other takes main =>
    exact closing.advance [.abortIfPending .relay] main nofun takes.closed.trans rfl

theorem Closing.main (closing : r.Closing) (move : MainMove observer r r') : r'.Closing := by
  cases move with
  | timer main =>
    exact closing.advance [.abortIfPending .drainTimeout,
      .report drainTimeoutDecision, .close, .discard] main (fun _ => .inr ⟨.close, by simp, rfl⟩)
      id rfl
  | checkDrain main =>
    refine closing.advance [_] main (fun _ => .inr ⟨_, mem_singleton_self _, ?_⟩) id rfl
    split
    · rfl
    · rfl
  | handle main => exact closing.advance _ main nofun id rfl
  | @abortIfPending code rest main =>
    cases pending : observer.hasPending r.observer with
    | true => exact closing.advance [.abort code] main nofun id (by simp)
    | false => exact closing.advance [] main nofun id (by simp)
  | abort main => exact closing.advance [] main nofun id rfl
  | report main => exact closing.advance [_] main nofun id rfl
  | close main => exact .inl rfl
  | closeObserver main => exact closing.advance [] main nofun id rfl
  | @lock response rest deadlineSet main free =>
    by_cases dropped : response = [] ∨ !deadlineSet
    · exact closing.advance [] main nofun id (if_pos dropped)
    · exact closing.advance [.writeError response] main nofun id (if_neg dropped)
  | giveUp main => exact closing.advance [] main nofun id rfl
  | @writeError left rest count error main =>
    by_cases last : error.isSome ∨ count = 0 ∨ left.length ≤ count
    · exact closing.advance [] main nofun id (if_pos last)
    · exact closing.advance [.writeError (left.drop count)] main nofun id (if_neg last)

theorem ServerMove.main (move : ServerMove observer r r') :
    r'.main = r.main ∧ r'.closed = r.closed ∧ r'.drainClient = r.drainClient := by
  cases move with
  | read _ error =>
    unfold serverRead
    split
    · exact ⟨rfl, rfl, rfl⟩
    · exact ⟨rfl, rfl, rfl⟩
  | refused locks => exact ⟨rfl, rfl, rfl⟩
  | lock locks => exact ⟨rfl, rfl, rfl⟩
  | write _ error => exact ⟨rfl, rfl, rfl⟩
  | settle => exact ⟨rfl, rfl, rfl⟩

theorem Closing.moves (closing : r.Closing) (moves : Moves observer r r') : r'.Closing := by
  cases moves with
  | client move =>
    obtain ⟨-, main, -, -, closed, -⟩ := move.server
    rw [Closing, main, closed]
    exact closing
  | server move =>
    obtain ⟨main, closed, -⟩ := move.main
    rw [Closing, main, closed]
    exact closing
  | receive move => exact closing.receive move
  | main move => exact closing.main move

end RelayCoordinator

end Jianmen.DBProxy
