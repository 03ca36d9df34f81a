import Jianmen.Library.Ledger
import Jianmen.DBProxy.Postgres.Run

/-!
# Audit before forwarding, and finishing once

The records of the started queries stand in the pending list and, at the same time, in the cycles.
Both hold the same records, every one of them was allowed, and none of them has been finished.
Finishing a cycle takes its records out one by one; when a finish panics on the way, the record
that was just tried is marked in its cycle, and failing skips it.
-/

namespace Jianmen.DBProxy

open Postgres List

/-- The allowed records have distinct sequence numbers. -/
def Distinct (calls : List SinkCall) : Prop :=
  ((allowedRecords calls).map QueryRecord.seq).Nodup

theorem Distinct.of_append {calls more : List SinkCall} (distinct : Distinct (calls ++ more)) :
    Distinct calls := by
  unfold Distinct at distinct
  rw [allowedRecords_append, map_append] at distinct
  exact distinct.of_append_left

variable {records : List QueryRecord} {record : QueryRecord}

/-- Removing by sequence number removes that record, if sequence numbers are distinct. -/
theorem eraseP_seq_perm
    (distinct : (records.map QueryRecord.seq).Nodup) (member : record ∈ records) :
    records.Perm (record :: records.eraseP fun other => other.seq == record.seq) := by
  induction records with
  | nil => cases member
  | cons first rest ih =>
    simp only [map_cons, nodup_cons] at distinct
    by_cases same : first.seq = record.seq
    · have equal : first = record := by
        rcases mem_cons.mp member with head | tail
        · exact head.symm
        · exact (distinct.1 (same ▸ mem_map_of_mem tail)).elim
      simp [equal]
    · have tail : record ∈ rest := by
        rcases mem_cons.mp member with head | tail
        · exact (same (congrArg QueryRecord.seq head.symm)).elim
        · exact tail
      rw [eraseP_cons_of_neg (by simpa using same)]
      exact ((ih distinct.2 tail).cons first).trans (.swap record first _)

/-- So does keeping the records with another sequence number. -/
theorem filter_seq_perm
    (distinct : (records.map QueryRecord.seq).Nodup) (member : record ∈ records) :
    records.Perm (record :: records.filter fun other => other.seq != record.seq) := by
  induction records with
  | nil => cases member
  | cons first rest ih =>
    simp only [map_cons, nodup_cons] at distinct
    by_cases same : first.seq = record.seq
    · have equal : first = record := by
        rcases mem_cons.mp member with head | tail
        · exact head.symm
        · exact (distinct.1 (same ▸ mem_map_of_mem tail)).elim
      have others : rest.filter (fun other => other.seq != record.seq) = rest := by
        rw [filter_eq_self]
        intro other present
        rw [bne_iff_ne]
        intro also
        exact distinct.1 (same.trans also.symm ▸ mem_map_of_mem present)
      simp [equal, others]
    · have tail : record ∈ rest := by
        rcases mem_cons.mp member with head | tail
        · exact (same (congrArg QueryRecord.seq head.symm)).elim
        · exact tail
      rw [filter_cons_of_pos (by simpa using same)]
      exact ((ih distinct.2 tail).cons first).trans (.swap record first _)

namespace PostgresObserver

/-! ## Records -/

/-- All cycles, the open one last. -/
def allCycles (o : PostgresObserver) : List PostgresQueryCycle :=
  o.cycles ++ o.openCycle.toList

/-- The records of a list of cycles. -/
def cycleRecords (cycles : List PostgresQueryCycle) : List QueryRecord :=
  cycles.flatMap fun cycle => cycle.entries.map PostgresQueryEntry.record

/-- No finish of an entry has failed. -/
def Clean (cycles : List PostgresQueryCycle) : Prop :=
  ∀ cycle ∈ cycles, ∀ entry ∈ cycle.entries, entry.finishFailed = false

/-- Cycles and pending records agree, and the pending records are the allowed ones that have not
been finished. -/
structure Sound (o : PostgresObserver) : Prop where
  clean : Clean o.allCycles
  grouped : (cycleRecords o.allCycles).Perm o.pending
  distinct : (o.pending.map QueryRecord.seq).Nodup
  balanced : Ledger.Balanced (allowedRecords o.calls) (finishAttempts o.calls) o.pending
  fatal_empty : o.fatal.isSome → o.pending = []

variable {o o' : PostgresObserver} {cycle : PostgresQueryCycle} {entry : PostgresQueryEntry}
  {decision : QueryDecision} {frame : Bytes} {session : Session PostgresObserver}

/-- Soundness is about the cycles, the pending records, the failure and the calls. -/
theorem Sound.of_cycles (sound : o.Sound) (all : o'.allCycles = o.allCycles)
    (pending : o'.pending = o.pending) (fatal : o'.fatal = o.fatal)
    (allowed : allowedRecords o'.calls = allowedRecords o.calls)
    (finished : finishAttempts o'.calls = finishAttempts o.calls) : o'.Sound := by
  refine ⟨?_, ?_, ?_, ?_, ?_⟩
  · rw [all]
    exact sound.clean
  · rw [all, pending]
    exact sound.grouped
  · rw [pending]
    exact sound.distinct
  · rw [allowed, finished, pending]
    exact sound.balanced
  · rw [fatal, pending]
    exact sound.fatal_empty

theorem Sound.of_same (sound : o.Sound) (cycles : o'.cycles = o.cycles)
    (openCycle : o'.openCycle = o.openCycle) (pending : o'.pending = o.pending)
    (fatal : o'.fatal = o.fatal) (allowed : allowedRecords o'.calls = allowedRecords o.calls)
    (finished : finishAttempts o'.calls = finishAttempts o.calls) : o'.Sound :=
  sound.of_cycles (by simp [allCycles, cycles, openCycle]) pending fatal allowed finished

variable (sink : QuerySink) {rest : List PostgresQueryEntry} {β : Type}
  {change : PostgresQueryEntry → PostgresQueryEntry} {audit : DatabaseSQLAudit}
  {command : AuditedCommand} {parameters : Option DatabaseAuditArtifact} {record : QueryRecord}
  {message : FrontendMessage} {o₁ o' : PostgresObserver}

/-! ## Failing -/

/-- Failing finishes the pending records whose finish has not been tried. -/
theorem finishPendingWith_calls (o : PostgresObserver) (code : ErrorCode)
    (pending : List QueryRecord) (calls : List SinkCall) (auditFailed : Bool) :
    ∃ more, (finishPendingWith sink o code pending calls auditFailed).1 = calls ++ more ∧
      NoStart more ∧
      finishAttempts more = pending.filter fun record => !o.postgresPendingFinishFailed record := by
  induction pending generalizing calls auditFailed with
  | nil => exact ⟨[], by simp [finishPendingWith], NoStart.nil, rfl⟩
  | cons record _ ih =>
    simp only [finishPendingWith]
    split
    · rename_i failed
      obtain ⟨more, called, quiet, attempts⟩ := ih calls auditFailed
      exact ⟨more, called, quiet, by simp [failed, attempts]⟩
    rename_i untried
    obtain ⟨more, called, quiet, attempts⟩ := ih
      (finishObservedQuery sink calls record (terminatedFinish code)).1
      (auditFailed || !(finishObservedQuery sink calls record (terminatedFinish code)).2)
    refine ⟨[.finish record (terminatedFinish code)
      (sink.finishQuery calls record (terminatedFinish code))] ++ more, ?_, ?_, ?_⟩
    · rw [← append_assoc]
      exact called
    · exact (NoStart.finish _ _ _).append quiet
    · simp [untried, attempts]

/-- The pending records that failing still finishes. -/
def untried (o : PostgresObserver) : List QueryRecord :=
  o.pending.filter fun record => !o.postgresPendingFinishFailed record

/-- What failing does: it starts nothing, and finishes what is untried. -/
theorem failDecision_calls (o : PostgresObserver) (decision : QueryDecision) :
    ∃ more, (o.failDecision sink decision).1.calls = o.calls ++ more ∧ NoStart more ∧
      finishAttempts more = o.untried := by
  obtain ⟨more, called, quiet, attempts⟩ := finishPendingWith_calls sink o
    (o.fatal.getD decision).errorCode o.pending o.calls false
  obtain ⟨closing, no_attempts⟩ := closeCalls_quiet o.clientStream
  refine ⟨more ++ PostgresClientFrameStream.closeCalls o.clientStream, ?_, quiet.append closing, ?_⟩
  · simp [failDecision, called]
  · rw [finishAttempts_append, attempts, no_attempts, append_nil]
    rfl

/-- Failing settles an account whose open part is what is untried. -/
theorem failDecision_sound
    (balanced : Ledger.Balanced (allowedRecords o.calls) (finishAttempts o.calls) o.untried)
    (decision : QueryDecision) : (o.failDecision sink decision).1.Sound := by
  obtain ⟨_, called, quiet, attempts⟩ := failDecision_calls sink o decision
  refine ⟨?_, .refl _, nodup_nil, ?_, fun _ => rfl⟩
  · intro cycle member
    cases member
  · rw [called, allowedRecords_append, finishAttempts_append, attempts, quiet.allowedRecords,
      append_nil]
    have all : Ledger.Balanced (allowedRecords o.calls) (finishAttempts o.calls)
        (o.untried ++ []) := by
      rwa [append_nil]
    exact all.closing_front

theorem untried_eq (clean : Clean o.allCycles) : o.untried = o.pending := by
  refine filter_eq_self.mpr fun record _ => ?_
  have none_failed : o.postgresPendingFinishFailed record = false := by
    simp only [postgresPendingFinishFailed, any_eq_false]
    intro cycle present
    simp only [any_eq_true, Bool.and_eq_true, not_exists, not_and]
    intro entry member _
    simp [clean cycle present entry member]
  simp [none_failed]

theorem Sound.failDecision (sound : o.Sound) (decision : QueryDecision) :
    (o.failDecision sink decision).1.Sound := by
  refine failDecision_sound sink ?_ decision
  rw [untried_eq sound.clean]
  exact sound.balanced

/-! ## Finishing a cycle -/

/-- The cycles behind the active one. -/
def otherCycles (o : PostgresObserver) : List PostgresQueryCycle :=
  match o.cycles with
  | _ :: rest => rest ++ o.openCycle.toList
  | [] => []

theorem allCycles_of_active (active : o.activePostgresCycle = some cycle) :
    o.allCycles = cycle :: o.otherCycles := by
  unfold activePostgresCycle at active
  unfold allCycles otherCycles
  split at active
  · rename_i cycles
    cases active
    rw [cycles]
    rfl
  · next cycles => simp [cycles, active]

@[simp] theorem dropActiveCycle_allCycles (o : PostgresObserver) :
    o.dropActiveCycle.allCycles = o.otherCycles := by
  unfold dropActiveCycle allCycles otherCycles
  split <;> simp [*]

@[simp] theorem setActiveCycle_allCycles (o : PostgresObserver) (cycle : PostgresQueryCycle) :
    (o.setActiveCycle cycle).allCycles = cycle :: o.otherCycles := by
  unfold setActiveCycle allCycles otherCycles
  split <;> simp [*]

theorem setActiveCycle_same (o : PostgresObserver) (cycle : PostgresQueryCycle) :
    (o.setActiveCycle cycle).pending = o.pending ∧ (o.setActiveCycle cycle).calls = o.calls ∧
      (o.setActiveCycle cycle).fatal = o.fatal := by
  unfold setActiveCycle
  split <;> exact ⟨rfl, rfl, rfl⟩

theorem dropActiveCycle_same (o : PostgresObserver) :
    o.dropActiveCycle.pending = o.pending ∧ o.dropActiveCycle.calls = o.calls ∧
      o.dropActiveCycle.fatal = o.fatal := by
  unfold dropActiveCycle
  split <;> exact ⟨rfl, rfl, rfl⟩

/-- The active cycle is being finished: the entries before `rest` are settled, and their records
are no longer pending. -/
structure Finishing (o : PostgresObserver) (settled rest : List PostgresQueryEntry) : Prop where
  clean : ∀ entry ∈ settled ++ rest, entry.finishFailed = false
  others : Clean o.otherCycles
  grouped : (rest.map PostgresQueryEntry.record ++ cycleRecords o.otherCycles).Perm o.pending
  distinct : (o.pending.map QueryRecord.seq).Nodup
  balanced : Ledger.Balanced (allowedRecords o.calls) (finishAttempts o.calls) o.pending
  unfailed : o.fatal = none

theorem Sound.finishing (sound : o.Sound) (unfailed : o.fatal = none)
    (active : o.activePostgresCycle = some cycle) : Finishing o [] cycle.entries := by
  have all := allCycles_of_active active
  have clean := sound.clean
  have grouped := sound.grouped
  rw [all] at clean grouped
  exact ⟨clean cycle (by simp), fun other member => clean other (by simp [member]), grouped,
    sound.distinct, sound.balanced, unfailed⟩

/-- The records left are pending with the one in front of them. -/
private theorem Finishing.member {settled : List PostgresQueryEntry}
    (finishing : Finishing o settled (entry :: rest)) : entry.record ∈ o.pending :=
  finishing.grouped.subset (by simp)

/-- After a finish that returned. -/
private theorem Finishing.next {settled : List PostgresQueryEntry}
    (finishing : Finishing o settled (entry :: rest)) (finish : QueryFinish) (returned : Bool) :
    Finishing { o with
        calls := o.calls ++ [.finish entry.record finish returned]
        pending := o.pending.eraseP fun other => other.seq == entry.record.seq }
      (settled ++ [entry.settle]) rest := by
  have removed := eraseP_seq_perm finishing.distinct finishing.member
  have numbers := (removed.map QueryRecord.seq).nodup_iff.mp finishing.distinct
  refine ⟨?_, finishing.others, ?_, ?_, ?_, finishing.unfailed⟩
  · intro other member
    simp only [append_assoc, singleton_append, mem_append, mem_cons] at member
    rcases member with before | rfl | after
    · exact finishing.clean other (by simp [before])
    · exact finishing.clean entry (by simp)
    · exact finishing.clean other (by simp [after])
  · exact (perm_cons entry.record).mp (finishing.grouped.trans removed)
  · exact (nodup_cons.mp numbers).2
  · have balanced := (finishing.balanced.reorder removed).closing_head
    simpa using balanced

/-- When a finish panics, it is the only one that failing does not try. -/
private theorem Finishing.failed {settled : List PostgresQueryEntry}
    (finishing : Finishing o settled (entry :: rest)) (simple : Bool) (finish : QueryFinish)
    (returned : Bool) :
    let o₁ := setActiveCycle { o with calls := o.calls ++ [.finish entry.record finish returned] }
      ⟨simple, settled ++ { entry.settle with finishFailed := true } :: rest⟩
    Ledger.Balanced (allowedRecords o₁.calls) (finishAttempts o₁.calls) o₁.untried := by
  intro o₁
  obtain ⟨pending, calls, -⟩ := setActiveCycle_same
    { o with calls := o.calls ++ [.finish entry.record finish returned] }
    ⟨simple, settled ++ { entry.settle with finishFailed := true } :: rest⟩
  have failed : ∀ record, o₁.postgresPendingFinishFailed record =
      (record.seq == entry.record.seq) := by
    intro record
    have quiet : ∀ entries : List PostgresQueryEntry,
        (∀ other ∈ entries, other.finishFailed = false) →
        entries.any (fun other => other.record.seq == record.seq && other.finishFailed) = false := by
      intro entries clean
      refine any_eq_false.mpr fun other member => ?_
      simp [clean other member]
    have before := quiet settled fun other member => finishing.clean other (by simp [member])
    have after := quiet rest fun other member => finishing.clean other (by simp [member])
    have others : o.otherCycles.any (fun cycle => cycle.entries.any fun other =>
        other.record.seq == record.seq && other.finishFailed) = false := by
      refine any_eq_false.mpr fun cycle member => ?_
      simpa using quiet cycle.entries (finishing.others cycle member)
    have all : o₁.postgresPendingFinishFailed record = o₁.allCycles.any fun cycle =>
        cycle.entries.any fun other => other.record.seq == record.seq && other.finishFailed := rfl
    rw [all, setActiveCycle_allCycles, any_cons, any_append, any_cons, before, after]
    have same : otherCycles { o with calls := o.calls ++ [.finish entry.record finish returned] } =
        o.otherCycles := rfl
    rw [same, others]
    simp only [Bool.and_true, Bool.or_false]
    exact BEq.comm
  have untried : o₁.untried = o.pending.filter fun other => other.seq != entry.record.seq := by
    simp only [PostgresObserver.untried, failed]
    rw [show o₁.pending = o.pending from pending]
    rfl
  rw [untried, show o₁.calls = _ from calls]
  have kept := filter_seq_perm finishing.distinct finishing.member
  have balanced := (finishing.balanced.reorder kept).closing_head
  simpa using balanced

/-- Finishing a cycle to its end, or up to the finish that panics, keeps the observer sound. -/
theorem finishPostgresEntries_sound (simple : Bool) (entries : List PostgresQueryEntry) :
    ∀ {o : PostgresObserver} {settled : List PostgresQueryEntry}, Finishing o settled entries →
      (finishPostgresEntries sink simple o settled entries).Sound := by
  induction entries with
  | nil =>
    intro o settled finishing
    obtain ⟨pending, calls, fatal⟩ := dropActiveCycle_same o
    refine ⟨?_, ?_, ?_, ?_, ?_⟩
    all_goals simp [finishPostgresEntries, pending, calls]
    · exact finishing.others
    · exact finishing.grouped
    · exact finishing.distinct
    · exact finishing.balanced
    · simp [fatal, finishing.unfailed]
  | cons _ _ ih =>
    intro o settled finishing
    simp only [finishPostgresEntries]
    split
    · exact failDecision_sound sink (finishing.failed simple _ _) _
    · exact ih (finishing.next _ _)

/-! ## Server messages -/

theorem updateNextIncomplete_map {f : PostgresQueryEntry → β}
    (keeps : ∀ entry, f (change entry) = f entry) {entries changed : List PostgresQueryEntry}
    (updated : updateNextIncomplete change entries = some changed) :
    changed.map f = entries.map f := by
  induction entries generalizing changed with
  | nil => simp [updateNextIncomplete] at updated
  | cons entry _ ih =>
    simp only [updateNextIncomplete] at updated
    split at updated
    · obtain ⟨_, after, rfl⟩ := Option.map_eq_some_iff.mp updated
      simp [ih after]
    · cases updated
      simp [keeps]

theorem updateAnswered_map {f : PostgresQueryEntry → β}
    (keeps : ∀ entry, f (change entry) = f entry) (cycle : PostgresQueryCycle) :
    (updateAnswered cycle change).entries.map f = cycle.entries.map f := by
  unfold updateAnswered
  split
  · next entries updated => exact updateNextIncomplete_map keeps updated
  split
  · split
    · rfl
    · next entry rest entries => simp [entries, keeps]
  · rfl

/-- What no answer changes of an entry. -/
def entryIdentity (entry : PostgresQueryEntry) : QueryRecord × Bool :=
  (entry.record, entry.finishFailed)

theorem addRows_identity (entry : PostgresQueryEntry) (tag : Bytes) :
    entryIdentity (entry.addRows tag) = entryIdentity entry := by
  unfold PostgresQueryEntry.addRows
  repeat' split
  all_goals rfl

theorem completePostgresCommand_identity (cycle : PostgresQueryCycle) (tag : Bytes) :
    (completePostgresCommand cycle tag).entries.map entryIdentity =
      cycle.entries.map entryIdentity := by
  refine updateAnswered_map (fun entry => ?_) cycle
  split
  · exact addRows_identity _ tag
  · exact addRows_identity _ tag

theorem completePostgresError_identity (cycle : PostgresQueryCycle) (code : Bytes) :
    (completePostgresError cycle code).entries.map entryIdentity =
      cycle.entries.map entryIdentity := by
  refine updateAnswered_map (fun _ => ?_) cycle
  rfl

theorem completePostgresPortalSuspended_identity (cycle : PostgresQueryCycle) :
    (completePostgresPortalSuspended cycle).entries.map entryIdentity =
      cycle.entries.map entryIdentity := by
  unfold completePostgresPortalSuspended
  split
  · rfl
  split
  · rename_i entries updated
    refine updateNextIncomplete_map (fun _ => ?_) updated
    rfl
  · rfl

theorem Sound.setActiveCycle (sound : o.Sound) {cycle changed : PostgresQueryCycle}
    (active : o.activePostgresCycle = some cycle)
    (same : changed.entries.map entryIdentity = cycle.entries.map entryIdentity) :
    (o.setActiveCycle changed).Sound := by
  have clean := sound.clean
  have grouped := sound.grouped
  rw [allCycles_of_active active] at clean grouped
  have records : changed.entries.map PostgresQueryEntry.record =
      cycle.entries.map PostgresQueryEntry.record := by
    have firsts := congrArg (map Prod.fst) same
    simpa [entryIdentity, Function.comp_def] using firsts
  have flags : changed.entries.map PostgresQueryEntry.finishFailed =
      cycle.entries.map PostgresQueryEntry.finishFailed := by
    have seconds := congrArg (map Prod.snd) same
    simpa [entryIdentity, Function.comp_def] using seconds
  obtain ⟨pending, calls, fatal⟩ := setActiveCycle_same o changed
  refine ⟨?_, ?_, ?_, ?_, ?_⟩
  all_goals simp [pending, calls, fatal]
  · intro other member entry present
    rcases mem_cons.mp member with rfl | behind
    · have flag : entry.finishFailed ∈ cycle.entries.map PostgresQueryEntry.finishFailed := by
        rw [← flags]
        exact mem_map_of_mem present
      obtain ⟨before, listed, equal⟩ := mem_map.mp flag
      rw [← equal]
      exact clean cycle (by simp) before listed
    · exact clean other (by simp [behind]) entry present
  · simp only [cycleRecords, flatMap_cons, records] at grouped ⊢
    exact grouped
  · exact sound.distinct
  · exact sound.balanced
  · exact sound.fatal_empty

theorem observeActiveCycle_sound (sound : o.Sound) (unfailed : o.fatal = none)
    (active : o.activePostgresCycle = some cycle) (messageType : MessageType) (payload : Bytes) :
    (observeActiveCycle sink o cycle messageType payload).Sound := by
  simp only [observeActiveCycle]
  repeat' split
  · exact sound.setActiveCycle active (completePostgresCommand_identity cycle _)
  · exact sound.setActiveCycle active (completePostgresPortalSuspended_identity cycle)
  · exact sound.setActiveCycle active (completePostgresCommand_identity cycle _)
  · exact sound.setActiveCycle active (completePostgresError_identity cycle _)
  · exact finishPostgresEntries_sound sink _ _ (sound.finishing unfailed active)
  · exact sound

theorem observePostgresServerMessage_sound (sound : o.Sound) (unfailed : o.fatal = none)
    (messageType : MessageType) (payload : Bytes) :
    (observePostgresServerMessage sink o messageType payload).Sound := by
  have kept := observePostgresOperationResponse_kept o messageType payload
  have responded : (o.observePostgresOperationResponse messageType payload).1.Sound := by
    obtain ⟨_, _, _, same⟩ := observePostgresOperationResponse_same o messageType payload
    rw [same]
    exact sound.of_same rfl rfl rfl rfl rfl rfl
  simp only [observePostgresServerMessage]
  split
  · rename_i o₁ decision response
    rw [response] at responded
    exact responded.failDecision sink decision
  rename_i o₁ response
  rw [response] at responded kept
  split
  · exact responded
  rename_i active
  split
  · exact responded
  · exact observeActiveCycle_sound sink responded (kept.fatal.trans unfailed) active _ _

/-- A server message starts nothing. -/
theorem observePostgresServerMessage_calls (o : PostgresObserver) (messageType : MessageType)
    (payload : Bytes) :
    ∃ more, (observePostgresServerMessage sink o messageType payload).calls = o.calls ++ more ∧
      NoStart more := by
  obtain ⟨_, _, _, response⟩ := observePostgresOperationResponse_same o messageType payload
  obtain ⟨o₁, moved, outcome⟩ := observePostgresServerMessage_cases sink o messageType payload
  obtain ⟨more, calls, quiet⟩ := moved.calls
  rw [response] at calls
  rcases outcome with ⟨-, same⟩ | ⟨decision, failed⟩
  · rw [same]
    exact ⟨more, calls, quiet⟩
  · obtain ⟨last, called, last_quiet, -⟩ := failDecision_calls sink o₁ decision
    rw [failed, called, calls]
    exact ⟨more ++ last, append_assoc .., quiet.append last_quiet⟩

/-! ## Moves -/

/-- An allowed start of a record with a new sequence number. -/
private theorem Sound.starting (sound : o.Sound) (allowed : decision.allowed)
    (distinct : Distinct (o.calls ++ [startCall audit command parameters record decision])) :
    ((o.pending ++ [record]).map QueryRecord.seq).Nodup ∧ Ledger.Balanced
        (allowedRecords (o.calls ++ [startCall audit command parameters record decision]))
        (finishAttempts (o.calls ++ [startCall audit command parameters record decision]))
        (o.pending ++ [record]) := by
  have balanced := sound.balanced.opening record
  have records : allowedRecords (o.calls ++ [startCall audit command parameters record decision]) =
      allowedRecords o.calls ++ [record] := by
    simp [startCall, allowed]
  rw [Distinct, records] at distinct
  constructor
  · have within : (o.pending ++ [record]).Subperm (allowedRecords o.calls ++ [record]) :=
      (sublist_append_right _ _).subperm.trans balanced.subperm
    obtain ⟨_, perm, sublist⟩ := within
    exact (perm.map QueryRecord.seq).nodup_iff.mp (distinct.sublist (sublist.map QueryRecord.seq))
  · rw [records]
    simpa [startCall] using balanced

@[simp] theorem cycleRecords_append (first second : List PostgresQueryCycle) :
    cycleRecords (first ++ second) = cycleRecords first ++ cycleRecords second := by
  simp [cycleRecords]

theorem Clean.append {first second : List PostgresQueryCycle} (first_clean : Clean first)
    (second_clean : Clean second) : Clean (first ++ second) :=
  forall_mem_append.mpr ⟨first_clean, second_clean⟩

/-- Starting a record: it is pending, and it stands in a cycle. -/
private theorem Sound.started (sound : o.Sound) (unfailed : o.fatal = none)
    (allowed : decision.allowed)
    (calls : o'.calls = o.calls ++ [startCall audit command parameters record decision])
    (pending : o'.pending = o.pending ++ [record]) (fatal : o'.fatal = o.fatal)
    (clean : Clean o'.allCycles)
    (grouped : (cycleRecords o'.allCycles).Perm (cycleRecords o.allCycles ++ [record]))
    (distinct : Distinct o'.calls) : o'.Sound := by
  rw [calls] at distinct
  obtain ⟨fresh, balanced⟩ := sound.starting allowed distinct
  refine ⟨clean, ?_, ?_, ?_, ?_⟩
  · rw [pending]
    exact grouped.trans (sound.grouped.append_right [record])
  · rw [pending]
    exact fresh
  · rw [calls, pending]
    exact balanced
  · intro failed
    rw [fatal, unfailed] at failed
    cases failed

/-- Accepting a message adds to the calls. -/
theorem Accepts.calls (accepts : Accepts sink message o o') :
    ∃ more, o'.calls = o.calls ++ more := by
  cases accepts with
  | query _ allows => exact ⟨_, rfl⟩
  | execute _ allows => exact ⟨_, rfl⟩
  | _ => exact ⟨[], (append_nil _).symm⟩

/-- Accepting a message keeps the observer sound. -/
theorem Accepts.sound (accepts : Accepts sink message o o')
    (sound : o.Sound) (unfailed : o.fatal = none) (distinct : Distinct o'.calls) : o'.Sound := by
  have closed : Clean o.cycles := fun cycle member =>
    sound.clean cycle (mem_append_left _ member)
  have open_clean : Clean o.openCycle.toList := fun cycle member =>
    sound.clean cycle (mem_append_right _ member)
  cases accepts with
  | query text allows =>
    refine sound.started unfailed allows.allowed rfl rfl rfl ?_ ?_ distinct
    · exact (closed.append (by simp [Clean])).append open_clean
    · simp only [allCycles, enqueuePostgresOperation, cycleRecords_append, append_assoc]
      exact (perm_append_comm).append_left _
  | execute known allows =>
    refine sound.started unfailed allows.allowed rfl rfl rfl ?_ ?_ distinct
    · have entries : ∀ entry ∈ (o.openCycle.getD ⟨false, []⟩).entries,
          entry.finishFailed = false := by
        cases opened : o.openCycle with
        | none => simp
        | some cycle => exact open_clean cycle (by simp [opened])
      refine closed.append (forall_mem_singleton.mpr ?_)
      exact forall_mem_append.mpr ⟨entries, forall_mem_singleton.mpr rfl⟩
    · have same : cycleRecords o.openCycle.toList =
          (o.openCycle.getD ⟨false, []⟩).entries.map PostgresQueryEntry.record := by
        cases o.openCycle with
        | none => rfl
        | some cycle => simp [cycleRecords]
      simp only [allCycles, enqueuePostgresOperation, called, cycleRecords_append, same]
      simp [cycleRecords]
  | sync =>
    refine sound.of_cycles ?_ rfl rfl rfl rfl
    simp [allCycles, enqueuePostgresOperation]
  | parse text fresh => exact sound.of_same rfl rfl rfl rfl rfl rfl
  | bind fresh known => exact sound.of_same rfl rfl rfl rfl rfl rfl
  | close => exact sound.of_same rfl rfl rfl rfl rfl rfl
  | describe => exact sound.of_same rfl rfl rfl rfl rfl rfl
  | other => exact sound

/-- A refusal starts nothing that is allowed. -/
theorem Refuses.calls (refuses : Refuses sink o o' decision) :
    ∃ more, o'.calls = o.calls ++ more ∧ allowedStarts more = [] := by
  cases refuses with
  | @failed more last refused quiet last_quiet =>
    obtain ⟨finishes, calls, starts, -⟩ := failDecision_calls sink (o.called more) refused
    refine ⟨more ++ (finishes ++ last), ?_, ?_⟩
    · rw [called_calls, calls, called_calls, append_assoc, append_assoc]
    · simp [quiet.1.allowedStarts, starts.allowedStarts, last_quiet.1.allowedStarts]
  | @denied more sql detail outcome decision quiet unallowed refused =>
    refine ⟨_, rfl, ?_⟩
    rw [allowedStarts_append, quiet.1.allowedStarts]
    exact unallowed.allowedStarts sql detail

/-- Captures keep the observer sound. -/
theorem Sound.called (sound : o.Sound) {more : List SinkCall} (quiet : Quiet more) :
    (o.called more).Sound :=
  sound.of_same rfl rfl rfl rfl (by simp [quiet.1.allowedRecords]) (by simp [quiet.2])

/-- Refusing a message keeps the observer sound. -/
theorem Refuses.sound (refuses : Refuses sink o o' decision) (sound : o.Sound) : o'.Sound := by
  cases refuses with
  | failed quiet last_quiet =>
    exact ((sound.called quiet).failDecision sink _).called last_quiet
  | @denied more sql detail outcome decision quiet unallowed refused =>
    refine (sound.called quiet).of_same rfl rfl rfl rfl ?_ ?_
    · simp [allowedRecords, unallowed.allowedStarts sql detail]
    · simp

/-! ## Announcements -/

/-- A frame that asks for a query to be run. -/
def isAudited (frame : Bytes) : Bool :=
  match frameMessage frame with
  | .query _ | .execute _ => true
  | _ => false

/-- A start announces a frame: the command is that of the frame and, for a Query, the text is an
audit text of its statement. -/
def Announces (start : AuditedCommand × Bytes × QueryRecord) (frame : Bytes) : Prop :=
  match frameMessage frame with
  | .query sql => start.1 = .postgresQuery ∧ IsAuditText sink sql start.2.1
  | .execute _ => start.1 = .postgresExecute
  | _ => False

/-- The frames let through to their last byte. -/
def wholeSent (o : PostgresObserver) : List Bytes :=
  (o.sent.filter SentFrame.whole).map SentFrame.bytes

/-- The audited frames let through whole are announced by the allowed starts, one by one. -/
def Announced (o : PostgresObserver) : Prop :=
  List.Forall₂ (Announces sink) (allowedStarts o.calls) (o.wholeSent.filter isAudited)

theorem Announced.of_same (announced : Announced sink o)
    (starts : allowedStarts o'.calls = allowedStarts o.calls) (sent : o'.wholeSent = o.wholeSent) :
    Announced sink o' := by
  unfold Announced
  rw [starts, sent]
  exact announced

/-- What accepting the message of a frame starts announces the frame. -/
theorem Observes.announces (observes : Observes sink (frameMessage frame) o o') :
    ∃ starts, allowedStarts o'.calls = allowedStarts o.calls ++ starts ∧
      List.Forall₂ (Announces sink) starts ([frame].filter isAudited) := by
  obtain ⟨more, quiet, accepts⟩ := observes
  have silent : allowedStarts (o.called more).calls = allowedStarts o.calls := by
    simp [quiet.1.allowedStarts]
  generalize asked : frameMessage frame = message at accepts
  rw [← silent]
  have unaudited : isAudited frame = false → o'.calls = (o.called more).calls →
      ∃ starts, allowedStarts o'.calls = allowedStarts (o.called more).calls ++ starts ∧
        List.Forall₂ (Announces sink) starts ([frame].filter isAudited) := by
    intro unaudited same
    refine ⟨[], by rw [same, append_nil], ?_⟩
    rw [filter_singleton, unaudited]
    exact .nil
  have audited : ∀ {audit : DatabaseSQLAudit} {command : AuditedCommand}
      {parameters : Option DatabaseAuditArtifact} {record : QueryRecord}
      {decision : QueryDecision}, decision.allowed → isAudited frame →
      Announces sink (command, audit.text, record) frame →
      o'.calls = (o.called more).calls ++ [startCall audit command parameters record decision] →
      ∃ starts, allowedStarts o'.calls = allowedStarts (o.called more).calls ++ starts ∧
        List.Forall₂ (Announces sink) starts ([frame].filter isAudited) := by
    intro audit command parameters record decision allowed audited announces same
    refine ⟨[(command, audit.text, record)], ?_, ?_⟩
    · rw [same]
      simp [startCall, allowed]
    · rw [filter_singleton, audited]
      exact .cons announces .nil
  cases accepts with
  | query text allows =>
    refine audited allows.allowed ?_ ?_ rfl
    · simp [isAudited, asked]
    · simp only [Announces, asked]
      exact ⟨trivial, text⟩
  | execute known allows =>
    refine audited allows.allowed ?_ ?_ rfl
    · simp [isAudited, asked]
    · simp [Announces, asked]
  | parse text fresh => exact unaudited (by simp [isAudited, asked]) rfl
  | bind fresh known => exact unaudited (by simp [isAudited, asked]) rfl
  | close => exact unaudited (by simp [isAudited, asked]) rfl
  | describe => exact unaudited (by simp [isAudited, asked]) rfl
  | sync => exact unaudited (by simp [isAudited, asked]) rfl
  | other => exact unaudited (by simp [isAudited, asked]) rfl

/-- Letting an observed frame through to its end keeps the announcements. -/
private theorem Announced.observed {o : PostgresObserver} (announced : Announced sink o)
    (observes : Observes sink (frameMessage frame) o o₁) (calls : o'.calls = o₁.calls)
    (sent : o'.wholeSent = o.wholeSent ++ [frame]) : Announced sink o' := by
  obtain ⟨_, called, announces⟩ := observes.announces sink
  unfold Announced
  rw [calls, called, sent, filter_append]
  exact rel_append announced announces

/-- Every frame let through is whole, or the beginning of one. -/
def Framed (o : PostgresObserver) : Prop :=
  ∀ frame ∈ o.sent, if frame.whole then IsFrame frame.bytes else IsPart frame.bytes

/-- What every move of the client loop keeps. -/
structure Audits (o : PostgresObserver) : Prop where
  announced : Announced sink o
  framed : Framed o
  sound : Distinct o.calls → o.Sound

/-- A move that lets nothing whole through and allows nothing. -/
private theorem Audits.keep (audits : Audits sink o)
    (starts : ∃ more, o'.calls = o.calls ++ more ∧ allowedStarts more = [])
    (whole : o'.wholeSent = o.wholeSent) (framed : Framed o') (sound : o.Sound → o'.Sound) :
    Audits sink o' := by
  obtain ⟨more, calls, none_allowed⟩ := starts
  refine ⟨audits.announced.of_same sink ?_ whole, framed, ?_⟩
  · rw [calls, allowedStarts_append, none_allowed, append_nil]
  · intro distinct
    rw [calls] at distinct
    exact sound (audits.sound distinct.of_append)

/-- An observed frame that is let through to its end. -/
private theorem Audits.observed {o : PostgresObserver} (audits : Audits sink o)
    (unfailed : o.fatal = none) (observes : Observes sink (frameMessage frame) o o₁)
    (calls : o'.calls = o₁.calls) (whole : o'.wholeSent = o.wholeSent ++ [frame])
    (framed : Framed o') (sound : o₁.Sound → o'.Sound) : Audits sink o' := by
  refine ⟨audits.announced.observed sink observes calls whole, framed, ?_⟩
  intro distinct
  rw [calls] at distinct
  obtain ⟨_, quiet, accepts⟩ := observes
  obtain ⟨_, called⟩ := accepts.calls sink
  have before : Distinct o.calls := by
    rw [called, called_calls, append_assoc] at distinct
    exact distinct.of_append
  exact sound (accepts.sound sink ((audits.sound before).called quiet) unfailed distinct)

theorem ClientMove.audits (move : ClientMove sink o o') (audits : Audits sink o) :
    Audits sink o' := by
  cases move with
  | buffer buffer _ _ _ quiet =>
    refine audits.keep sink ⟨_, rfl, quiet.1.allowedStarts⟩ rfl audits.framed fun sound => ?_
    exact (sound.called quiet).of_same rfl rfl rfl rfl rfl rfl
  | @begin bytes part =>
    refine audits.keep sink ⟨[], by simp [send], rfl⟩ ?_ ?_ fun sound =>
      sound.of_same rfl rfl rfl rfl rfl rfl
    · simp [wholeSent, send]
    · exact forall_mem_append.mpr ⟨audits.framed, forall_mem_singleton.mpr part⟩
  | @extend earlier bytes chunk last part =>
    refine audits.keep sink ⟨[], by simp, rfl⟩ ?_ ?_ fun sound =>
      sound.of_same rfl rfl rfl rfl rfl rfl
    · simp [wholeSent, last]
    · have framed := audits.framed
      rw [Framed, last] at framed
      exact forall_mem_append.mpr ⟨(forall_mem_append.mp framed).1, forall_mem_singleton.mpr part⟩
  | @whole o₁ frame unfailed proper observes =>
    obtain ⟨-, -, -, sent, -⟩ := observes.same sink
    refine audits.observed sink unfailed observes rfl ?_ ?_ fun sound =>
      sound.of_same rfl rfl rfl rfl rfl rfl
    · simp [wholeSent, send, sent]
    · rw [Framed, send, sent]
      exact forall_mem_append.mpr ⟨audits.framed, forall_mem_singleton.mpr proper⟩
  | @complete o₁ earlier bytes chunk unfailed last proper observes =>
    refine audits.observed sink unfailed observes rfl ?_ ?_ fun sound =>
      sound.of_same rfl rfl rfl rfl rfl rfl
    · simp [wholeSent, last]
    · have framed := audits.framed
      rw [Framed, last] at framed
      exact forall_mem_append.mpr ⟨(forall_mem_append.mp framed).1, forall_mem_singleton.mpr proper⟩
  | refuse refuses =>
    obtain ⟨sent, -⟩ := refuses.same sink
    refine audits.keep sink (refuses.calls sink) ?_ ?_ (refuses.sound sink)
    · simp [wholeSent, sent]
    · intro frame member
      rw [sent] at member
      exact audits.framed frame member

theorem ServerMove.audits {bytes : Bytes} (move : ServerMove sink o bytes o')
    (audits : Audits sink o) : Audits sink o' := by
  have sent := move.client.1
  have whole : o'.wholeSent = o.wholeSent := by simp [wholeSent, sent]
  have framed : Framed o' := by
    intro frame member
    rw [sent] at member
    exact audits.framed frame member
  cases move with
  | buffer =>
    exact audits.keep sink ⟨[], by simp, rfl⟩ whole framed fun sound =>
      sound.of_same rfl rfl rfl rfl rfl rfl
  | answer _ unfailed =>
    obtain ⟨more, calls, quiet⟩ :=
      observePostgresServerMessage_calls sink o (bytes.headD 0) (bytes.drop 5)
    exact audits.keep sink ⟨more, calls, quiet.allowedStarts⟩ whole framed fun sound =>
      observePostgresServerMessage_sound sink sound unfailed _ _
  | stream =>
    exact audits.keep sink ⟨[], by simp, rfl⟩ whole framed fun sound =>
      sound.of_same rfl rfl rfl rfl rfl rfl
  | chunk =>
    exact audits.keep sink ⟨[], by simp, rfl⟩ whole framed fun sound =>
      sound.of_same rfl rfl rfl rfl rfl rfl
  | fail decision =>
    obtain ⟨more, calls, quiet, -⟩ := failDecision_calls sink o decision
    exact audits.keep sink ⟨more, calls, quiet.allowedStarts⟩ whole framed fun sound =>
      sound.failDecision sink decision

theorem ClientMoves.audits (moves : ClientMoves sink o o') (audits : Audits sink o) :
    Audits sink o' := by
  induction moves with
  | refl => exact audits
  | tail _ move ih => exact move.audits sink ih

theorem ServerMoves.audits {bytes : Bytes} (moves : ServerMoves sink o bytes o')
    (audits : Audits sink o) : Audits sink o' := by
  induction moves with
  | refl => exact audits
  | tail _ move ih => exact move.audits sink ih

/-! ## Sessions -/

/-- What every call of the relay keeps. -/
structure SessionSound (session : Session PostgresObserver) : Prop where
  audits : Audits sink session.observer
  bytes : session.toServer = sentBytes session.observer
  client : ClientReady sink session.observer
  server : ServerReady session.observer
  aligned : session.ended = false → Aligned session.observer

theorem new_sessionSound (maxClientMessageBytes : Int) :
    SessionSound sink { observer := new maxClientMessageBytes } where
  audits :=
    { announced := .nil
      framed := by simp [Framed, new]
      sound := fun _ => ⟨by simp [Clean, allCycles, new], .refl _, nodup_nil,
        Ledger.Balanced.empty, fun _ => rfl⟩ }
  bytes := rfl
  client := ⟨rfl, by simp [new]⟩
  server := ⟨Nat.zero_le _, by simp [new]⟩
  aligned _ := ⟨by simp [new], by simp [new]⟩

variable (budget : Option ObserverMemoryBudget)

theorem SessionSound.client_call (holds : SessionSound sink session) (data : Bytes) :
    SessionSound sink (session.act (relay sink budget) (.client data)) := by
  cases failed : session.observer.fatal with
  | some =>
    simp only [Session.act, relay, observeClientRelayBytes_failed budget failed data, append_nil]
    exact { holds with aligned := by simp }
  | none =>
    have relayed := observeClientRelayBytes_relayed budget holds.client failed data
    refine ⟨relayed.moves.audits sink holds.audits, ?_, relayed.ready,
      ClientMoves.serverReady relayed.moves holds.server, ?_⟩
    · exact (congrArg (· ++ _) holds.bytes).trans relayed.sent.symm
    · intro going
      simp only [Session.act, Bool.or_eq_false_iff, Option.isSome_eq_false_iff,
        Option.isNone_iff_eq_none] at going
      exact relayed.aligned (holds.aligned going.1) going.2

theorem SessionSound.server_call (holds : SessionSound sink session) (data : Bytes) :
    SessionSound sink (session.act (relay sink budget) (.server data)) := by
  cases failed : session.observer.fatal with
  | some =>
    simp only [Session.act, relay, observeServerRelayBytes_failed failed data]
    exact { holds with aligned := by simp }
  | none =>
    have relayed : ServerRelayed sink session.observer data
        (observeServerRelayBytes sink session.observer data) :=
      observeServerRelayBytes_relayed holds.server failed data
    obtain ⟨_, _, moves, -, -⟩ := relayed.moves
    obtain ⟨sent, unfailed⟩ := moves.client
    refine ⟨moves.audits sink holds.audits, ?_, moves.clientReady holds.client, relayed.ready, ?_⟩
    · exact holds.bytes.trans (congrArg (flatMap SentFrame.bytes) sent).symm
    · intro going
      simp only [Session.act, Bool.or_eq_false_iff, Option.isSome_eq_false_iff,
        Option.isNone_iff_eq_none] at going
      obtain ⟨-, stream, -⟩ := unfailed (relayed.fatal.trans going.2)
      have aligned := holds.aligned going.1
      exact ⟨by simpa [Session.act, relay, sent] using aligned.earlier,
        by simpa [Session.act, relay, sent, stream] using aligned.all⟩

theorem SessionSound.abort_call (holds : SessionSound sink session) (code : ErrorCode) :
    SessionSound sink (session.act (relay sink budget) (.abort code)) := by
  have move : ∀ decision, ClientMove sink session.observer
      (session.observer.failDecision sink decision).1 :=
    fun decision => .refuse (.fail sink session.observer decision)
  exact ⟨(move _).audits sink holds.audits, holds.bytes, ⟨holds.client.startup, by simp [Session.act,
    relay, abort, failDecision]⟩, ⟨Nat.zero_le _, by simp [Session.act, relay, abort,
    failDecision]⟩, by simp [Session.act]⟩

theorem run_sessionSound (maxClientMessageBytes : Int) (calls : List RelayCall) : SessionSound sink
      (Session.run (relay sink budget) { observer := new maxClientMessageBytes } calls) := by
  refine Session.run_invariant (relay sink budget) (SessionSound sink) ?_
    (new_sessionSound sink _) calls
  intro session call holds
  cases call with
  | client data => exact holds.client_call sink budget data
  | server data => exact holds.server_call sink budget data
  | abort code => exact holds.abort_call sink budget code

/-- Frames that are all whole, but for a last one that has begun, are read back from the bytes. -/
theorem Framed.wholeFrames_sentBytes (framed : Framed o)
    (earlier : ∀ frame ∈ o.sent.dropLast, frame.whole) :
    wholeFrames (sentBytes o) = o.wholeSent := by
  have proper : ∀ frames : List SentFrame, (∀ frame ∈ frames, frame ∈ o.sent) →
      (∀ frame ∈ frames, frame.whole) →
      ∀ bytes ∈ frames.map SentFrame.bytes, IsFrame bytes := by
    intro frames within whole bytes member
    obtain ⟨frame, present, rfl⟩ := mem_map.mp member
    have shape := framed frame (within frame present)
    rwa [whole frame present] at shape
  rcases eq_nil_or_concat o.sent with empty | ⟨before, last, sent⟩
  · simp [sentBytes, wholeSent, empty, wholeFrames, framesUpTo]
  · rw [sent, concat_eq_append, dropLast_concat] at earlier
    have kept : before.filter SentFrame.whole = before := filter_eq_self.mpr earlier
    have flat : before.flatMap SentFrame.bytes = (before.map SentFrame.bytes).flatten :=
      flatMap_def ..
    have shape := framed last (by simp [sent])
    cases whole : last.whole with
    | true =>
      have each := forall_mem_append.mpr ⟨earlier, forall_mem_singleton.mpr whole⟩
      have all := proper (before ++ [last]) (by simp [sent]) each
      have read := wholeFrames_flatten all (.inl rfl)
      simpa [sentBytes, wholeSent, sent, kept, whole, flat] using read
    | false =>
      rw [whole] at shape
      have all := proper before (by simp +contextual [sent]) earlier
      have read := wholeFrames_flatten all (.inr shape)
      simpa [sentBytes, wholeSent, sent, kept, whole, flat] using read

theorem Sound.settled (sound : o.Sound) (failed : o.fatal.isSome) :
    (finishAttempts o.calls).Perm (allowedRecords o.calls) := by
  have balanced := sound.balanced
  rw [sound.fatal_empty failed] at balanced
  exact balanced.settled

/-- In every session with a sink that numbers the allowed records differently, whatever else it
answers: every frame let through is either whole or lacks its end, and the whole Query and Execute
frames are announced, one by one, by the allowed starts; as long as no decision was returned,
these are the frames a server reads from the bytes; no record is finished more often than it was
allowed; and once the observer has failed, every allowed record has had its one finish attempt. -/
theorem started_before_forward_and_finished_once (maxClientMessageBytes : Int)
    (calls : List RelayCall)
    (distinct : Distinct
      (Session.run (relay sink budget) { observer := new maxClientMessageBytes } calls
        ).observer.calls) :
    let session := Session.run (relay sink budget) { observer := new maxClientMessageBytes } calls
    let o := session.observer
    session.toServer = o.sent.flatMap SentFrame.bytes ∧
      (∀ frame ∈ o.sent, if frame.whole then IsFrame frame.bytes else IsPart frame.bytes) ∧
      List.Forall₂ (Announces sink) (allowedStarts o.calls) (o.wholeSent.filter isAudited) ∧
      (session.ended = false → wholeFrames session.toServer = o.wholeSent) ∧
      (finishAttempts o.calls).Subperm (allowedRecords o.calls) ∧
      (o.fatal.isSome → (finishAttempts o.calls).Perm (allowedRecords o.calls)) := by
  intro session o
  have holds : SessionSound sink session := run_sessionSound sink budget maxClientMessageBytes calls
  have sound : o.Sound := holds.audits.sound distinct
  refine ⟨holds.bytes, holds.audits.framed, holds.audits.announced, fun going => ?_,
    sound.balanced.closed_subperm, sound.settled⟩
  rw [holds.bytes]
  exact holds.audits.framed.wholeFrames_sentBytes (holds.aligned going).earlier

/-- A sink that allows everything and numbers the records by the calls it has had. -/
def countingSink : QuerySink where
  startQuery calls sql _ := .returned { QueryRecord.zero with seq := calls.length + 1, sql := sql }
    { allowed := true, status := none, errorCode := .other [], errorMessage := "" }
  finishQuery _ _ _ := true
  policy := none
  artifacts := none

/-- Two Query frames. -/
def twoQueries : Bytes := [81, 0, 0, 0, 6, 65, 0, 81, 0, 0, 0, 6, 66, 0]

theorem started_before_forward_and_finished_once_twoQueries :
    let session := Session.run (relay countingSink none) { observer := new 0 }
      [.client twoQueries, .abort .relay]
    (finishAttempts session.observer.calls).Perm (allowedRecords session.observer.calls) ∧
      (allowedRecords session.observer.calls).length = 2 := by
  have distinct : Distinct (Session.run (relay countingSink none) { observer := new 0 }
      [.client twoQueries, .abort .relay]).observer.calls := by
    unfold Distinct
    decide +kernel
  obtain ⟨-, -, -, -, -, settled⟩ :=
    started_before_forward_and_finished_once countingSink none 0 _ distinct
  exact ⟨settled (by decide +kernel), by decide +kernel⟩

end PostgresObserver
end Jianmen.DBProxy
