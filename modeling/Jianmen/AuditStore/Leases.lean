import Jianmen.AuditStore.Sessions
import Jianmen.Library.Actions

/-!
# Leases of audit sessions

Stores share a database.  A store keeps the set of the sessions it created and has not ended; a
heartbeat extends their leases in batches and holds the read lock of the set meanwhile.  Calls on
the stores run concurrently: an action is one step of one call, which may take any time, or the
clock going on.
-/

namespace Jianmen.AuditStore

def maxAuditLeaseHeartbeatBatch : ℕ := 500

/-- What a call returns. -/
inductive Result where
  | ok
  | failed
  | notFound
  | renewed (sessions active : ℕ)
  | recovered (sessions : ℕ)
  deriving DecidableEq

/-- Calls on a store. -/
inductive Call where
  | create (session : AuditSession)
  | heartbeat
  | endSession (id : String)
  | finish (id : String) (finish : Update.Finish)
  | recoverExpired
  deriving DecidableEq

/-- Where a call stands.  A heartbeat that renews holds the read lock of its store. -/
inductive Task (ι : Type) where
  | insert (store : ι) (session : AuditSession)
  | track (store : ι) (id : String)
  | heartbeat (store : ι) (heartbeatAt : ℕ)
  | renew (store : ι) (heartbeatAt : ℕ) (ids : List String) (active renewed : ℕ)
  | untrack (store : ι) (id : String) (finish : Option Update.Finish)
  | endSession (store : ι) (id : String) (now : ℕ)
  | finish (store : ι) (id : String) (finish : Update.Finish)
  | finishEnded (id : String) (finish : Update.Finish)
  | verify (id : String) (finish : Update.Finish)
  | recover (now : ℕ)
  | returned (result : Result)
  deriving DecidableEq

/-- A committed write of a lease: the time it carries and the time of the commit. -/
structure LeaseCommit where
  id : String
  time : ℕ
  committed : ℕ
  deriving DecidableEq

/-- The stores and their database.  `tracked` holds a store's sessions as pairs.  The rest are
traces: the sessions that were in a store's set and were taken out, the leases that heartbeats
extended, all writes of leases with the last one first, and the sessions that recovery ended while
they were tracked. -/
structure World (ι : Type) where
  clock : ℕ
  sessions : Sessions
  tracked : List (ι × String) := []
  tasks : List (Task ι) := []
  untracked : List (ι × String) := []
  renewals : List (ι × String) := []
  commits : List LeaseCommit := []
  lapsed : List String := []

namespace World

variable {ι : Type} [DecidableEq ι] (owner : ι → String) (duration : ι → ℕ)

/-- A session under the lease of a store, from now on. -/
def prepareAuditSessionLease (w : World ι) (store : ι) (session : AuditSession) : AuditSession :=
  match session.state with
  | .started =>
    { session with
      leaseOwner := some (owner store)
      heartbeatAt := some w.clock
      leaseExpiresAt := some (w.clock + duration store) }
  | .ended => session

/-- A call begins; times are read here. -/
def begin (w : World ι) (store : ι) : Call → Task ι
  | .create session => .insert store (w.prepareAuditSessionLease owner duration store session)
  | .heartbeat => .heartbeat store w.clock
  | .endSession id => .untrack store id none
  | .finish id finish => .untrack store id (some finish)
  | .recoverExpired => .recover w.clock

/-- A heartbeat holds the read lock of the store. -/
def reading (w : World ι) (store : ι) : Bool :=
  w.tasks.any fun
    | .renew other _ _ _ _ => other == store
    | _ => false

def activeAuditSessionIDs (w : World ι) (store : ι) : List String :=
  (w.tracked.filter (·.1 == store)).map (·.2)

/-- Run an update; a failed one may have been applied. -/
def update (w : World ι) (update : Update) (reply : Reply) : World ι :=
  if reply.applied then { w with sessions := update.apply w.sessions } else w

/-- The outcome of an update that should affect one row. -/
def affectsOne (w : World ι) (update : Update) : Bool :=
  (update.affects w.sessions).length == 1

/-- The database with an inserted session. -/
def withSession (w : World ι) (session : AuditSession) (sessions : Sessions) : World ι :=
  { w with
    sessions := sessions
    commits :=
      (session.heartbeatAt.map fun time => ⟨session.id, time, w.clock⟩).toList ++ w.commits }

/-- Insert a session.  Only a store that sees its insert succeed tracks the session. -/
def insertSession (w : World ι) (store : ι) (session : AuditSession) (reply : Reply) :
    World ι × Task ι :=
  match w.sessions.insert? session with
  | none => (w, .returned .failed)
  | some sessions =>
    let inserted := if reply.applied then w.withSession session sessions else w
    match reply with
    | .ok =>
      (inserted,
        if session.state = .started ∧ trimSpace session.id ≠ "" then .track store session.id
        else .returned .ok)
    | .failed _ => (inserted, .returned .failed)

/-- The database with leases that a batch extended. -/
def extended (w : World ι) (store : ι) (batch : List String) (heartbeatAt : ℕ) : World ι :=
  let update := Update.heartbeat (owner store) batch heartbeatAt (heartbeatAt + duration store)
  let affected := (update.affects w.sessions).map (·.id)
  { w with
    sessions := update.apply w.sessions
    renewals := w.renewals ++ affected.map fun id => (store, id)
    commits := affected.map (fun id => ⟨id, heartbeatAt, w.clock⟩) ++ w.commits }

/-- Extend the leases of the next batch. -/
def renewBatch (w : World ι) (store : ι) (heartbeatAt : ℕ) (ids : List String)
    (active renewed : ℕ) (reply : Reply) : World ι × Task ι :=
  let batch := ids.take maxAuditLeaseHeartbeatBatch
  let rest := ids.drop maxAuditLeaseHeartbeatBatch
  let update := Update.heartbeat (owner store) batch heartbeatAt (heartbeatAt + duration store)
  let extended :=
    if reply.applied then w.extended owner duration store batch heartbeatAt else w
  match reply with
  | .ok =>
    let renewed := renewed + (update.affects w.sessions).length
    (extended,
      if rest ≠ [] then .renew store heartbeatAt rest active renewed
      else if renewed = active then .returned .ok
      else .returned (.renewed renewed active))
  | .failed _ => (extended, .returned .failed)

/-- Take a session out of the set of a store. -/
def untrackAuditSessionLease (w : World ι) (store : ι) (id : String) : World ι :=
  let pair := (store, trimSpace id)
  if pair ∈ w.tracked then
    { w with tracked := w.tracked.erase pair, untracked := pair :: w.untracked }
  else w

/-- The database when the sessions whose leases have expired are ended. -/
def recovered (w : World ι) (now : ℕ) : World ι :=
  let lapsed := ((Update.recoverExpired now).affects w.sessions).filter fun session =>
    w.tracked.any (·.2 == session.id)
  { w with
    sessions := (Update.recoverExpired now).apply w.sessions
    lapsed := w.lapsed ++ lapsed.map (·.id) }

def recoverExpired (w : World ι) (now : ℕ) (reply : Reply) : World ι :=
  if reply.applied then w.recovered now else w

/-- The next step of a call.  The write lock is not taken while a heartbeat reads; a heartbeat reads
the set in any order. -/
def advance (w : World ι) (order : List String) (reply : Reply) : Task ι → Option (World ι × Task ι)
  | .insert store session => some (w.insertSession store session reply)
  | .track store id =>
    if w.reading store then none
    else some ({ w with tracked := w.tracked.insert (store, id) }, .returned .ok)
  | .heartbeat store heartbeatAt =>
    if order.isPerm (w.activeAuditSessionIDs store) then
      some (w, if order = [] then .returned .ok
        else .renew store heartbeatAt order order.length 0)
    else none
  | .renew store heartbeatAt ids active renewed =>
    some (w.renewBatch owner duration store heartbeatAt ids active renewed reply)
  | .untrack store id finish =>
    if w.reading store then none
    else
      some (w.untrackAuditSessionLease store id,
        match finish with
        | none => .endSession store id w.clock
        | some finish => .finish store id finish)
  | .endSession store id now =>
    let update := Update.endSession (owner store) id now
    some (w.update update reply,
      match reply with
      | .ok => .returned (if w.affectsOne update then .ok else .notFound)
      | .failed _ => .returned .failed)
  | .finish store id finish =>
    let update := Update.finishSession (owner store) id finish
    some (w.update update reply,
      match reply with
      | .ok => if w.affectsOne update then .returned .ok else .finishEnded id finish
      | .failed _ => .returned .failed)
  | .finishEnded id finish =>
    let update := Update.finishEnded id finish
    some (w.update update reply,
      match reply with
      | .ok => if w.affectsOne update then .returned .ok else .verify id finish
      | .failed _ => .returned .failed)
  | .verify id finish =>
    let matching := w.sessions.rows.filter fun session =>
      (Update.finishEnded id finish).condition session &&
        session.recordingStatus == finish.recordingStatus
    some (w,
      match reply with
      | .ok => .returned (if matching.length = 1 then .ok else .notFound)
      | .failed _ => .returned .failed)
  | .recover now =>
    some (w.recoverExpired now reply,
      match reply with
      | .ok => .returned (.recovered ((Update.recoverExpired now).affects w.sessions).length)
      | .failed _ => .returned .failed)
  | .returned _ => none

/-! ## Runs -/

inductive Action (ι : Type) where
  | tick (time : ℕ)
  | call (store : ι) (call : Call)
  | advance (task : ℕ) (order : List String) (reply : Reply)
  deriving DecidableEq

def step (w : World ι) : Action ι → Option (World ι)
  | .tick time => some { w with clock := w.clock + time }
  | .call store call => some { w with tasks := w.tasks ++ [w.begin owner duration store call] }
  | .advance position order reply =>
    match w.tasks[position]? with
    | none => none
    | some task =>
      (w.advance owner duration order reply task).map fun advanced =>
        { advanced.1 with tasks := w.tasks.set position advanced.2 }

/-- Stores that begin with the sessions of others. -/
def start (clock : ℕ) (sessions : Sessions) : World ι where
  clock := clock
  sessions := sessions

def run : World ι → List (Action ι) → Option (World ι) :=
  Actions.run (step owner duration)

end World
end Jianmen.AuditStore
