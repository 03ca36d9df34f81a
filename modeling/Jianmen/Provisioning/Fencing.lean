import Jianmen.Provisioning.Transactions

/-!
# Fencing

Whatever calls are made on an operation, by whom and in which order, each one that succeeds replaces
the row it expected and counts its revision up, but for the one that completes a removal.  So no two
calls succeed from one revision, a lease that has been taken over is good for nothing, and no
account is activated once its removal has begun.
-/

namespace Jianmen.Provisioning

open Database

/-- The stages of an operation whose account may still be activated. -/
def Stage.activatable : Stage → Bool
  | .reserved | .createStarted | .upstreamCreated | .grantStarted | .activationPending => true
  | _ => false

theorem transition_not_activatable {source target : Stage} {cleanup : CleanupStatus}
    (valid : validProvisioningTransition source target cleanup)
    (past : source.activatable = false) : target.activatable = false := by
  revert valid past
  cases source <;> cases target <;> cases cleanup <;> decide

/-- A call on the store, with the times at which its statements run and what its transaction meets
outside the modelled tables. -/
inductive Call where
  | transition (now : Time) (expected : Fence) (move : Transition)
  | claim (now later : Time) (expected : Fence) (lease : Lease)
  | renew (now later : Time) (expected : Fence) (lease : Lease)
  | activate (now later : Time) (accountId : Option String) (expected : Fence)
  | beginDeprovision (now : Time) (accountId : String) (lease : Lease)
  | completeDeprovision (now later : Time) (resources : Bool) (expected : Fence)
      (accountId : String)

namespace Call

/-- Make a call: the database after it, and whether the call changed a row. -/
def perform (db : Database) : Call → Database × Bool
  | .transition now expected move =>
    match db.transitionDatabaseProvisioningOperation now expected move with
    | .ok (next, true) => (next, true)
    | _ => (db, false)
  | .claim now later expected lease =>
    match db.claimDatabaseProvisioningOperation now later expected lease with
    | .ok (next, some _) => (next, true)
    | _ => (db, false)
  | .renew now later expected lease =>
    match db.renewDatabaseProvisioningOperation now later expected lease with
    | .ok (next, some _) => (next, true)
    | _ => (db, false)
  | .activate now later accountId expected =>
    match db.activateDatabaseProvisioningOperation now later accountId expected with
    | .ok (next, some _) => (next, true)
    | _ => (db, false)
  | .beginDeprovision now accountId lease =>
    match db.beginDatabaseDeprovision now accountId lease with
    | .ok (next, some _, _) => (next, true)
    | _ => (db, false)
  | .completeDeprovision now later resources expected accountId =>
    match db.completeDatabaseDeprovision now later resources expected accountId with
    | .ok (next, true) => (next, true)
    | _ => (db, false)

/-- The fence a call was made with. -/
def fence? : Call → Option Fence
  | .transition _ expected _ | .claim _ _ expected _ | .renew _ _ expected _
  | .activate _ _ _ expected | .completeDeprovision _ _ _ expected _ => some expected
  | .beginDeprovision .. => none

/-- The token a call takes a lease with. -/
def takes? : Call → Option String
  | .claim _ _ _ lease | .beginDeprovision _ _ lease => some (trimSpace lease.token)
  | _ => none

def isActivation : Call → Bool
  | .activate .. => true
  | _ => false

def isCompletion : Call → Bool
  | .completeDeprovision .. => true
  | _ => false

/-- What a call that succeeds does to the row of its operation. -/
inductive Updates : Call → Operation → Operation → Prop where
  | transition {now : Time} {expected : Fence} {move : Transition} {old : Operation}
      (active : old.active = true) (fenced : old.fence = expected)
      (valid : validProvisioningTransition old.stage move.stage move.cleanupStatus = true) :
      Updates (.transition now expected move) old (old.transitioned now move)
  | claim {now later : Time} {expected : Fence} {lease : Lease} {old : Operation} {expiry : Time}
      (active : old.active = true) (fenced : old.fence = expected)
      (expired : expiredOrUnsetLeaseCondition now old = true) :
      Updates (.claim now later expected lease) old (old.leased now lease.trimmed expiry)
  | renew {now later : Time} {expected : Fence} {lease : Lease} {old : Operation} {expiry : Time}
      (active : old.active = true) (fenced : old.fence = expected)
      (held : old.leaseToken = lease.trimmed.token) :
      Updates (.renew now later expected lease) old (old.leased now lease.trimmed expiry)
  | activate {now later : Time} {accountId : Option String} {expected : Fence} {old : Operation}
      (active : old.active = true) (fenced : old.fence = expected)
      (pending : old.stage = .activationPending) :
      Updates (.activate now later accountId expected) old (old.activated later)
  | beginDeprovision {now : Time} {accountId : String} {lease : Lease} {old : Operation}
      {expiry : Time} (active : old.active = true) (managed : old.stage = .activeManaged) :
      Updates (.beginDeprovision now accountId lease) old (old.requested now lease.trimmed expiry)
  | completeDeprovision {now later : Time} {resources : Bool} {expected : Fence}
      {accountId : String} {old : Operation} (active : old.active = true)
      (fenced : old.fence = expected) (dropping : old.stage = .dropStarted) :
      Updates (.completeDeprovision now later resources expected accountId) old
        (old.deleted later)

variable {db next : Database} {succeeded : Bool}

private theorem not_performed
    (performed : (db, false) = (next, succeeded)) : succeeded = false ∧ next = db := by
  cases performed
  exact ⟨rfl, rfl⟩

/-- A call fails and changes nothing, or succeeds and replaces the row of its operation. -/
theorem perform_inv {call : Call} (performed : call.perform db = (next, succeeded)) :
    (succeeded = false ∧ next = db) ∨ (succeeded ∧ ∃ old new, call.Updates old new ∧
        Table.Replaces db.operations next.operations old new) := by
  cases call with
  | transition now expected =>
    simp only [perform] at performed
    split at performed
    · rename_i updated committed
      cases performed
      obtain ⟨-, missing⟩ | ⟨old, active, fenced, -, valid, rewrites⟩ := transition_inv committed
      · cases missing
      · exact .inr ⟨rfl, old, _, .transition active fenced valid, rewrites.operations⟩
    · exact .inl (not_performed performed)
  | claim now later expected lease =>
    simp only [perform] at performed
    split at performed
    · rename_i updated row committed
      cases performed
      obtain ⟨-, missing⟩ | ⟨old, expiry, window, -, active, fenced, expired, -, rewrites, -⟩ :=
        claim_inv committed
      · cases missing
      · exact .inr ⟨rfl, old, _, .claim active fenced expired, rewrites.operations⟩
    · exact .inl (not_performed performed)
  | renew now later expected lease =>
    simp only [perform] at performed
    split at performed
    · rename_i updated row committed
      cases performed
      obtain ⟨-, missing⟩ | ⟨old, expiry, window, -, active, fenced, -, held, -, rewrites, -⟩ :=
        renew_inv committed
      · cases missing
      · exact .inr ⟨rfl, old, _, .renew active fenced held, rewrites.operations⟩
    · exact .inl (not_performed performed)
  | activate now later accountId expected =>
    simp only [perform] at performed
    split at performed
    · rename_i updated row committed
      cases performed
      obtain ⟨-, missing⟩ | ⟨old, account, between, active, fenced, -, pending, -, -, rewrites, -,
        found⟩ := activate_inv committed
      · cases missing
      · have same : between.operations = db.operations := by
          obtain ⟨rfl, -⟩ | ⟨_, -, created⟩ := found
          · rfl
          · exact (createAccount_inv created).1
        exact .inr ⟨rfl, old, _, .activate active fenced pending, same ▸ rewrites.operations⟩
    · exact .inl (not_performed performed)
  | beginDeprovision now accountId lease =>
    simp only [perform] at performed
    split at performed
    · rename_i updated row flag committed
      cases performed
      obtain ⟨-, missing⟩ | ⟨old, expiry, account, -, active, managed, -, -, -, -, rewrites, -⟩ :=
        beginDeprovision_inv committed
      · cases missing
      · exact .inr ⟨rfl, old, _, .beginDeprovision active managed, rewrites.operations⟩
    · exact .inl (not_performed performed)
  | completeDeprovision now later _ expected accountId =>
    simp only [perform] at performed
    split at performed
    · rename_i updated committed
      cases performed
      obtain ⟨-, missing⟩ | ⟨old, account, active, fenced, -, dropping, -, -, -, -, replaces, -⟩ :=
        completeDeprovision_inv committed
      · cases missing
      · exact .inr ⟨rfl, old, _, .completeDeprovision active fenced dropping, replaces⟩
    · exact .inl (not_performed performed)

theorem perform_cases (call : Call) (db : Database) :
    ((call.perform db).2 = false ∧ (call.perform db).1 = db) ∨
      ((call.perform db).2 ∧ ∃ old new, call.Updates old new ∧
        Table.Replaces db.operations (call.perform db).1.operations old new) :=
  perform_inv (Prod.eta (call.perform db)).symm

/-! ## What one call does -/

variable {call : Call} {old new : Operation}

section

variable (updates : call.Updates old new)
include updates

theorem Updates.active : old.active := by
  cases updates <;> assumption

/-- Every call but a completion keeps the row and counts its revision up. -/
theorem Updates.revision :
    if call.isCompletion then new.active = false ∧ new.revision = old.revision
    else new.active ∧ new.revision = old.revision + 1 := by
  cases updates with
  | transition active | claim active | renew active | activate active | beginDeprovision active =>
    exact ⟨active, rfl⟩
  | completeDeprovision => exact ⟨rfl, rfl⟩

/-- A fenced call succeeds only with the token of the row. -/
theorem Updates.fence_token {expected : Fence} (fenced : call.fence? = some expected) :
    expected.leaseToken = old.leaseToken := by
  cases updates with
  | transition _ same | claim _ same | renew _ same | activate _ same
  | completeDeprovision _ same =>
    cases fenced
    rw [← same]
    rfl
  | beginDeprovision => cases fenced

/-- A token gets into a row only by a call that takes the lease. -/
theorem Updates.token :
    new.leaseToken = old.leaseToken ∨ new.leaseToken = "" ∨ call.takes? = some new.leaseToken := by
  cases updates with
  | @transition now expected move old =>
    simp only [Operation.transitioned]
    split
    · exact .inr (.inl rfl)
    · exact .inl rfl
  | claim | beginDeprovision => exact .inr (.inr rfl)
  | renew _ _ held => exact .inl held.symm
  | activate => exact .inr (.inl rfl)
  | completeDeprovision => exact .inl rfl

theorem Updates.taken {token : String} (takes : call.takes? = some token) :
    new.leaseToken = token := by
  cases updates with
  | claim | beginDeprovision => exact Option.some.inj takes
  | transition | renew | activate | completeDeprovision => cases takes

/-- No call leads back to where an account may be activated. -/
theorem Updates.not_activatable (past : old.stage.activatable = false) :
    new.stage.activatable = false := by
  cases updates with
  | transition _ _ valid => exact transition_not_activatable valid past
  | claim | renew | completeDeprovision => exact past
  | activate | beginDeprovision => rfl

theorem Updates.activation (activation : call.isActivation) :
    old.stage.activatable := by
  cases updates with
  | activate _ _ pending => rw [pending]; rfl
  | transition | claim | renew | beginDeprovision | completeDeprovision => cases activation

end

/-! ## What a schedule does -/

/-- A schedule: calls, one after the other. -/
def run (db : Database) (calls : List Call) : Database :=
  calls.foldl (fun db call => (call.perform db).1) db

/-- The changes of one row in a schedule, in which other calls fail or are about other rows. -/
inductive Evolves : List Call → Operation → Operation → Prop where
  | done {row : Operation} : Evolves [] row row
  | skip {call : Call} {calls : List Call} {row last : Operation} (rest : Evolves calls row last) :
      Evolves (call :: calls) row last
  | step {call : Call} {calls : List Call} {old new last : Operation}
      (updates : call.Updates old new) (rest : Evolves calls new last) :
      Evolves (call :: calls) old last

/-- A row stays in its table and changes by the calls that succeed on it. -/
theorem run_evolves (calls : List Call) {id : String} {row : Operation}
    (present : db.operations.get? id = some row) :
    ∃ last, (run db calls).operations.get? id = some last ∧ Evolves calls row last := by
  induction calls generalizing db row with
  | nil => exact ⟨row, present, .done⟩
  | cons call calls ih =>
    obtain ⟨-, same⟩ | ⟨-, old, _, updates, replaces⟩ :=
      perform_cases call db
    · obtain ⟨last, found, evolves⟩ := ih (same.symm ▸ present)
      exact ⟨last, found, .skip evolves⟩
    · by_cases named : id = old.id
      · obtain rfl : row = old := by
          rw [named, replaces.present] at present
          exact (Option.some.inj present).symm
        obtain ⟨last, found, evolves⟩ := ih (named ▸ replaces.get?_new)
        exact ⟨last, found, .step updates evolves⟩
      · obtain ⟨last, found, evolves⟩ := ih ((replaces.get?_other named).trans present)
        exact ⟨last, found, .skip evolves⟩

variable {calls : List Call} {row last : Operation}

/-- The revision never goes back, and a row that is not active any more stays as it is. -/
theorem Evolves.revision (evolves : Evolves calls row last) :
    row.revision ≤ last.revision ∧ (row.active = false → last = row) := by
  induction evolves with
  | done => exact ⟨Nat.le_refl _, fun _ => rfl⟩
  | skip rest ih => exact ih
  | @step call calls old new last updates rest ih =>
    have counted := updates.revision
    have before : old.revision ≤ new.revision := by
      split at counted <;> omega
    refine ⟨Nat.le_trans before ih.1, fun inactive => ?_⟩
    rw [updates.active] at inactive
    cases inactive

theorem Evolves.token_ne (evolves : Evolves calls row last) {token : String} (named : token ≠ "")
    (fresh : ∀ call ∈ calls, call.takes? ≠ some token) (lost : row.leaseToken ≠ token) :
    last.leaseToken ≠ token := by
  induction evolves with
  | done => exact lost
  | skip rest ih => exact ih (fun call member => fresh call (.tail _ member)) lost
  | @step call calls old new last updates rest ih =>
    refine ih (fun call member => fresh call (.tail _ member)) ?_
    intro back
    obtain kept | cleared | taken := updates.token
    · exact lost (kept.symm.trans back)
    · exact named (back.symm.trans cleared)
    · exact fresh call (.head _) (back ▸ taken)

theorem Evolves.not_activatable (evolves : Evolves calls row last)
    (past : row.stage.activatable = false) : last.stage.activatable = false := by
  induction evolves with
  | done => exact past
  | skip rest ih => exact ih past
  | step updates rest ih => exact ih (updates.not_activatable past)

/-- After some calls, a call succeeds on a row. -/
def Changes (db : Database) (earlier : List Call) (call : Call) (old new : Operation) : Prop :=
  (call.perform (run db earlier)).2 = true ∧
    Table.Replaces (run db earlier).operations (run db (earlier ++ [call])).operations old new

theorem run_append (db : Database) (first second : List Call) :
    run db (first ++ second) = run (run db first) second :=
  List.foldl_append

theorem Updates.ne (updates : call.Updates old new) : old ≠ new := by
  rintro rfl
  have counted := updates.revision
  have active := updates.active
  split at counted
  · exact Bool.false_ne_true (counted.1.symm.trans active)
  · omega

variable {db : Database} {earlier : List Call}

theorem Changes.updates (changes : Changes db earlier call old new) : call.Updates old new := by
  obtain ⟨succeeded, replaces⟩ := changes
  rw [run_append] at replaces
  obtain ⟨failed, -⟩ | ⟨-, _, _, updates, rows⟩ := perform_cases call (run db earlier)
  · rw [succeeded] at failed
    cases failed
  · obtain ⟨rfl, rfl⟩ := rows.unique replaces updates.ne
    exact updates

/-- A call that succeeds changes one row. -/
theorem changes_of_performed (performed : (call.perform (run db earlier)).2) :
    ∃ old new, Changes db earlier call old new := by
  obtain ⟨failed, -⟩ | ⟨-, old, new, -, replaces⟩ := perform_cases call (run db earlier)
  · rw [performed] at failed
    cases failed
  · refine ⟨old, new, performed, ?_⟩
    rw [run_append]
    exact replaces

/-- What becomes of a row after a call has succeeded on it. -/
theorem Changes.evolves (changes : Changes db earlier call old new) {between : List Call}
    {next : Call} {current changed : Operation}
    (later : Changes db (earlier ++ call :: between) next current changed)
    (same : current.id = old.id) : Evolves between new current := by
  have present := changes.2.get?_new
  obtain ⟨_, found, evolves⟩ := run_evolves between present
  have here := later.2.present
  rw [← run_append, List.append_assoc, List.singleton_append] at found
  rw [same, found] at here
  cases here
  exact evolves

end Call

open Call

/-- In every schedule of calls, from every database: a call that succeeds counts the revision of its
row up, unless it completes a removal; a call that succeeds after another one on the same row does
so from a later revision; when the lease of a row has been taken over, and nobody takes it again
with the old token, no call that names the old token succeeds on the row; and when a row is in a
stage in which the account is being dropped, no activation succeeds on it any more. -/
theorem calls_fenced (db : Database) : (∀ earlier call, (call.perform (run db earlier)).2 = true →
      ∃ old new, Changes db earlier call old new ∧
        if call.isCompletion then new.active = false ∧ new.revision = old.revision
        else new.active = true ∧ new.revision = old.revision + 1) ∧
    (∀ earlier first between second old new current changed, Changes db earlier first old new →
      Changes db (earlier ++ first :: between) second current changed → current.id = old.id →
      old.revision < current.revision) ∧
    (∀ earlier taker between call old new current changed expected,
      Changes db earlier taker old new → taker.takes?.isSome = true → old.leaseToken ≠ "" →
      (∀ next ∈ taker :: between, next.takes? ≠ some old.leaseToken) →
      call.fence? = some expected → expected.leaseToken = old.leaseToken →
      Changes db (earlier ++ taker :: between) call current changed → current.id ≠ old.id) ∧
    ∀ earlier between call row current changed, (run db earlier).operations.get? row.id = some row →
      row.stage = .cleanupInProgress ∨ row.stage = .dropStarted → call.isActivation = true →
      Changes db (earlier ++ between) call current changed → current.id ≠ row.id := by
  refine ⟨?_, ?_, ?_, ?_⟩
  · intro earlier call performed
    obtain ⟨old, new, changes⟩ := changes_of_performed performed
    exact ⟨old, new, changes, changes.updates.revision⟩
  · intro earlier first between second old new current changed changes later same
    have counted := changes.updates.revision
    obtain ⟨_, kept⟩ := (changes.evolves later same).revision
    split at counted
    · have active := later.updates.active
      rw [kept counted.1, counted.1] at active
      cases active
    · omega
  · intro earlier taker between call old new current changed expected changes takes held fresh
      fenced stale later same
    obtain ⟨_, taken⟩ := Option.isSome_iff_exists.mp takes
    have lost : new.leaseToken ≠ old.leaseToken := by
      intro back
      apply fresh taker (.head _)
      rw [taken, ← back, changes.updates.taken taken]
    have current_lost := (changes.evolves later same).token_ne held
      (fun next member => fresh next (.tail _ member)) lost
    exact current_lost ((later.updates.fence_token fenced).symm.trans stale)
  · intro earlier between call row current changed present dropping activation changes same
    have past : row.stage.activatable = false := by
      obtain dropping | dropping := dropping <;> rw [dropping] <;> rfl
    obtain ⟨_, found, evolves⟩ := run_evolves between present
    have here := changes.2.present
    rw [← run_append] at found
    rw [same, found] at here
    cases here
    have activatable := changes.updates.activation activation
    rw [evolves.not_activatable past] at activatable
    cases activatable

/-- An operation that the first worker has reserved until ten seconds. -/
def reservedFirst : Operation :=
  OperationInput.row
    { id := "jmo_aaaaaaaaaaaaaaaaaaaa", instanceId := "orders", adminAccountId := "root"
      username := "jm_a", password := "secret", host := "%", grants := "read", expiresAt := none
      actorId := "operator", idempotencyKey := "", requestHash := ""
      lease := ⟨"first", "first-token", 10000000000⟩, administratorUsername := "root"
      administratorPassword := "secret", instanceProof := "" } 0 10000000000

def reservedDatabase : Database where
  operations := ⟨[reservedFirst], List.nodup_singleton _⟩

/-- At eleven seconds the second worker takes the operation over. -/
def takeOver : Call :=
  .claim 11000000000 11000000000 reservedFirst.fence ⟨"second", "second-token", 10000000000⟩

/-- At twelve seconds a worker goes on from the row it knows. -/
def goOnFrom (row : Operation) : Call :=
  .transition 12000000000 row.fence { stage := .createStarted, cleanupStatus := .none }

/-- The second worker may go on, and the first one is refused. -/
theorem calls_fenced_takeOver :
    (∃ row ∈ (run reservedDatabase [takeOver]).operations.rows,
      ((goOnFrom row).perform (run reservedDatabase [takeOver])).2 = true) ∧
    ((goOnFrom reservedFirst).perform (run reservedDatabase [takeOver])).2 = false ∧
      ∀ current changed, Changes reservedDatabase [takeOver] (goOnFrom reservedFirst) current
        changed → current.id ≠ reservedFirst.id := by
  refine ⟨by decide +kernel, by decide +kernel, ?_⟩
  obtain ⟨succeeds, -, refuses, -⟩ := calls_fenced reservedDatabase
  obtain ⟨old, new, taken, -⟩ := succeeds [] takeOver (by decide +kernel)
  have fenced : old.fence = reservedFirst.fence := by
    cases taken.updates with
    | claim _ fenced _ => exact fenced
  have token : old.leaseToken = "first-token" := congrArg Fence.leaseToken fenced
  have id : old.id = reservedFirst.id := congrArg Fence.id fenced
  intro current changed later
  rw [← id]
  refine refuses [] takeOver [] (goOnFrom reservedFirst) old new current changed _ taken rfl ?_ ?_
    rfl token.symm later
  · rw [token]
    decide
  · rw [token]
    decide +kernel

end Jianmen.Provisioning
