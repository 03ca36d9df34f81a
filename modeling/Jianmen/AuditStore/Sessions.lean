import Jianmen.Library.Table
import Jianmen.Library.Text

/-!
# Audit sessions

The rows of audit sessions and the statements that change them.  A session is started under the
lease of a store, which heartbeats extend; it is ended by the store that holds its lease, or by
anyone once the lease has expired.  Times are numbers, as a common clock shows them.
-/

namespace Jianmen.AuditStore

inductive SessionState where
  | started
  | ended
  deriving DecidableEq, Repr

inductive RecordingStatus where
  | none
  | pending
  | uploading
  | ready
  | failed
  deriving DecidableEq, Repr

inductive CleanupStatus where
  | ready
  | pending
  | failed
  deriving DecidableEq, Repr

def auditOutcomeConnecting : String := "connecting"
def auditOutcomeActive : String := "active"
def auditOutcomeSucceeded : String := "succeeded"
def auditOutcomeTerminated : String := "terminated"

def auditLeaseExpiredFailureCode : String := "audit_lease_expired"
def auditLeaseExpiredFailureMessage : String := "audit session lease expired without a heartbeat"

/-- A row.  No lease owner and no cleanup status stand for columns that are null or empty. -/
structure AuditSession where
  id : String
  protocol : String := ""
  endedAt : Option ℕ := none
  state : SessionState
  outcome : Option String := some auditOutcomeConnecting
  failureCode : String := ""
  failureMessage : String := ""
  recordingStatus : RecordingStatus := .none
  leaseOwner : Option String := none
  heartbeatAt : Option ℕ := none
  leaseExpiresAt : Option ℕ := none
  replayDir : String := ""
  cleanupStatus : Option CleanupStatus := some .ready
  cleanupAt : Option ℕ := none
  cleanupError : String := ""
  deriving DecidableEq, Repr

abbrev Sessions := Table AuditSession.id

/-- How the database answers; a statement that failed may have been applied all the same. -/
inductive Reply where
  | ok
  | failed (applied : Bool)
  deriving DecidableEq

/-- The statement was applied. -/
def Reply.applied : Reply → Bool
  | .ok => true
  | .failed applied => applied

/-! ## Updates -/

/-- A statement that updates the sessions meeting a condition. -/
structure Update where
  condition : AuditSession → Bool
  change : AuditSession → AuditSession
  keeps : ∀ session, (change session).id = session.id

namespace Update

def apply (update : Update) (sessions : Sessions) : Sessions :=
  sessions.updateWhere update.condition update.change update.keeps

/-- The sessions that an update affects. -/
def affects (update : Update) (sessions : Sessions) : List AuditSession :=
  sessions.rows.filter update.condition

/-- End a session of an owner. -/
def endSession (owner id : String) (now : ℕ) : Update where
  condition session :=
    session.id == trimSpace id && session.state == .started && session.leaseOwner == some owner
  change session :=
    { session with
      state := .ended
      endedAt := some now
      outcome :=
        if session.outcome ∈
            [none, some "", some auditOutcomeConnecting, some auditOutcomeActive] then
          some auditOutcomeSucceeded
        else session.outcome }
  keeps _ := rfl

/-- What a session is finished with. -/
structure Finish where
  outcome : String
  failureCode : String := ""
  failureMessage : String := ""
  recordingStatus : RecordingStatus := .none
  endedAt : ℕ
  deriving DecidableEq, Repr

/-- Finish a session of an owner. -/
def finishSession (owner id : String) (finish : Finish) : Update where
  condition session :=
    session.id == trimSpace id && session.state == .started && session.leaseOwner == some owner
  change session :=
    { session with
      state := .ended
      endedAt := some finish.endedAt
      outcome := some (trimSpace finish.outcome)
      failureCode := trimSpace finish.failureCode
      failureMessage := trimSpace finish.failureMessage
      recordingStatus := finish.recordingStatus }
  keeps _ := rfl

/-- Finish the recording of a session that has ended with the same outcome. -/
def finishEnded (id : String) (finish : Finish) : Update where
  condition session :=
    session.id == trimSpace id && session.state == .ended &&
      session.outcome == some (trimSpace finish.outcome)
  change session := { session with recordingStatus := finish.recordingStatus }
  keeps _ := rfl

/-- Extend the leases of a batch of sessions. -/
def heartbeat (owner : String) (batch : List String) (heartbeatAt expiresAt : ℕ) : Update where
  condition session :=
    batch.contains session.id && session.state == .started && session.leaseOwner == some owner
  change session :=
    { session with heartbeatAt := some heartbeatAt, leaseExpiresAt := some expiresAt }
  keeps _ := rfl

end Update

/-- The session is started under a lease that has expired. -/
def AuditSession.leaseExpired (now : ℕ) (session : AuditSession) : Bool :=
  session.state == .started && session.leaseOwner.isSome &&
    match session.heartbeatAt, session.leaseExpiresAt with
    | some heartbeatAt, some expiresAt =>
      decide (heartbeatAt ≤ expiresAt) && decide (expiresAt ≤ now)
    | _, _ => false

/-- End the sessions whose leases have expired. -/
def Update.recoverExpired (now : ℕ) : Update where
  condition := AuditSession.leaseExpired now
  change session :=
    { session with
      state := .ended
      endedAt := session.leaseExpiresAt
      outcome := some auditOutcomeTerminated
      failureCode := auditLeaseExpiredFailureCode
      failureMessage := auditLeaseExpiredFailureMessage
      cleanupStatus := some .ready
      cleanupAt := none
      cleanupError := "" }
  keeps _ := rfl

/-! ## What has ended stays so -/

/-- The session has ended, with the same end and failure. -/
structure AuditSession.EndedAs (before after : AuditSession) : Prop where
  id : after.id = before.id
  ended : after.state = .ended
  endedAt : after.endedAt = before.endedAt
  outcome : after.outcome = before.outcome
  failureCode : after.failureCode = before.failureCode
  failureMessage : after.failureMessage = before.failureMessage

namespace Update

variable {update : Update}

/-- The update leaves the end of sessions that have ended. -/
def KeepsEnds (update : Update) : Prop :=
  ∀ session, session.state = .ended → update.condition session = true →
    session.EndedAs (update.change session)

/-- An update of started sessions only. -/
theorem KeepsEnds.of_started
    (started : ∀ session, update.condition session → session.state = .started) :
    update.KeepsEnds := by
  intro session ended met
  rw [started session met] at ended
  cases ended

theorem endSession_keepsEnds (owner id : String) (now : ℕ) : (endSession owner id now).KeepsEnds :=
  .of_started fun session met => by
    simp only [endSession, Bool.and_eq_true, beq_iff_eq] at met
    exact met.1.2

theorem finishSession_keepsEnds (owner id : String) (finish : Finish) :
    (finishSession owner id finish).KeepsEnds :=
  .of_started fun session met => by
    simp only [finishSession, Bool.and_eq_true, beq_iff_eq] at met
    exact met.1.2

theorem finishEnded_keepsEnds (id : String) (finish : Finish) : (finishEnded id finish).KeepsEnds :=
  fun _ ended _ => ⟨rfl, ended, rfl, rfl, rfl, rfl⟩

theorem heartbeat_keepsEnds (owner : String) (batch : List String) (heartbeatAt expiresAt : ℕ) :
    (heartbeat owner batch heartbeatAt expiresAt).KeepsEnds :=
  fun _ ended _ => ⟨rfl, ended, rfl, rfl, rfl, rfl⟩

theorem recoverExpired_keepsEnds (now : ℕ) : (recoverExpired now).KeepsEnds :=
  .of_started fun session met => by
    simp only [recoverExpired, AuditSession.leaseExpired, Bool.and_eq_true, beq_iff_eq] at met
    exact met.1.1

theorem get?_apply (update : Update) (sessions : Sessions) (id : String) :
    (update.apply sessions).get? id = (sessions.get? id).map fun session =>
        if update.condition session then update.change session else session :=
  Table.get?_updateWhere _ _ _ _ _

end Update

theorem AuditSession.EndedAs.refl {session : AuditSession} (ended : session.state = .ended) :
    session.EndedAs session :=
  ⟨rfl, ended, rfl, rfl, rfl, rfl⟩

theorem AuditSession.EndedAs.trans {first second third : AuditSession}
    (before : first.EndedAs second) (after : second.EndedAs third) : first.EndedAs third where
  id := after.id.trans before.id
  ended := after.ended
  endedAt := after.endedAt.trans before.endedAt
  outcome := after.outcome.trans before.outcome
  failureCode := after.failureCode.trans before.failureCode
  failureMessage := after.failureMessage.trans before.failureMessage

end Jianmen.AuditStore
