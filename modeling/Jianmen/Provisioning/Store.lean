import Jianmen.Library.Table
import Jianmen.Library.Text

/-!
# The provisioning store

An account on an upstream database is provisioned by an operation, a row that moves through stages
under a lease.  Every update of the row is conditional: it names the stage, the cleanup status, the
revision and the lease it expects, and counts the revision up.  Activating an operation inserts the
managed account it is for; completing its removal takes both rows away.  Here are these
transactions, and those on accounts and instances next to them, as functions on a database.
-/

namespace Jianmen.Provisioning

/-! ## Texts -/

/-- An operation is named after the token in its user name. -/
def validProvisioningIdentity (id username : String) : Bool :=
  let known := (trimSpace id).toList
  let token := known.drop 4
  known.take 4 == "jmo_".toList && token.length == 20 &&
    (trimSpace username).toList == "jm_".toList ++ token &&
    token.all fun character =>
      ('a' ≤ character && character ≤ 'z') || ('0' ≤ character && character ≤ '9')

/-! ## Rows -/

/-- Times of the database clock and durations, in nanoseconds. -/
abbrev Time := ℕ
abbrev Duration := ℕ

inductive Stage where
  | reserved
  | createStarted
  | createUncertain
  | upstreamCreated
  | grantStarted
  | activationPending
  | cleanupRequired
  | cleanupInProgress
  | notCreated
  | activeManaged
  | deprovisionRequested
  | dropStarted
  | dropUncertain
  deriving DecidableEq

inductive CleanupStatus where
  | none
  | required
  | inProgress
  | failed
  deriving DecidableEq

/-- The last error of an operation, without surrounding white space. -/
inductive LastError where
  | none
  | createUncertain
  | grantFailed
  | activationFailed
  | cleanupFailed
  | other (text : String)
  deriving DecidableEq

/-- A row of `database_provisioning_operations`.  `active` is its active marker. -/
structure Operation where
  id : String
  instanceId : String
  actorId : String
  idempotencyKey : Option String
  requestHash : String
  adminAccountId : String
  username : String
  password : String
  host : String
  grants : String
  expiresAt : Option Time
  stage : Stage
  cleanupStatus : CleanupStatus
  lastError : LastError
  attemptCount : ℕ
  lastAttemptAt : Option Time
  revision : ℕ
  leaseOwner : String
  leaseToken : String
  leaseExpiresAt : Option Time
  createdAt : Time
  updatedAt : Time
  active : Bool
  deriving DecidableEq

/-- A row of `database_accounts`. -/
structure Account where
  id : String
  instanceId : String
  username : String
  password : String
  managed : Bool
  upstreamHost : String
  expiresAt : Option Time
  status : String
  provisioningOperationId : Option String
  active : Bool
  deriving DecidableEq

/-- A row of `database_instances`; `endpoint` is what a connection depends on. -/
structure Instance where
  id : String
  protocol : String
  endpoint : String
  status : String
  active : Bool
  deriving DecidableEq

/-- The tables, each with its primary key. -/
structure Database where
  operations : Table Operation.id := .empty
  accounts : Table Account.id := .empty
  instances : Table Instance.id := .empty

/-! ## Fences and leases -/

/-- What a caller expects of a row. -/
structure Fence where
  id : String
  stage : Stage
  cleanupStatus : CleanupStatus
  revision : ℕ
  leaseOwner : String
  leaseToken : String
  deriving DecidableEq

def Operation.fence (operation : Operation) : Fence where
  id := operation.id
  stage := operation.stage
  cleanupStatus := operation.cleanupStatus
  revision := operation.revision
  leaseOwner := operation.leaseOwner
  leaseToken := operation.leaseToken

structure Lease where
  owner : String
  token : String
  duration : Duration
  deriving DecidableEq

/-- What is left of a lease. -/
structure LeaseWindow where
  remaining : Duration
  deriving DecidableEq

/-- `provisioningFenceCondition`. -/
def provisioningFenceCondition (expected : Fence) (row : Operation) : Bool :=
  row.id == expected.id && row.stage == expected.stage &&
    row.cleanupStatus == expected.cleanupStatus && row.revision == expected.revision &&
    row.leaseOwner == expected.leaseOwner && row.leaseToken == expected.leaseToken

def validLeaseCondition (now : Time) (row : Operation) : Bool :=
  row.leaseExpiresAt.any fun expiry => decide (now < expiry)

def expiredOrUnsetLeaseCondition (now : Time) (row : Operation) : Bool :=
  row.leaseExpiresAt.all fun expiry => decide (expiry ≤ now)

/-- A lease is claimed when nobody holds one and renewed by its holder. -/
def leaseCondition (claim : Bool) (now : Time) (row : Operation) : Bool :=
  if claim then expiredOrUnsetLeaseCondition now row else validLeaseCondition now row

/-- Leases are whole microseconds. -/
def leaseExpiryExpression (now : Time) (duration : Duration) : Except String Time :=
  if duration < 1000 ∨ duration % 1000 ≠ 0 then
    .error "database provisioning lease duration is unsupported"
  else .ok (now + duration)

/-- What is left of the lease of a row, at most `maxRemaining`. -/
def leaseWindow (now : Time) (row : Operation) (maxRemaining : Duration) :
    Except String LeaseWindow :=
  match row.leaseExpiresAt with
  | some expiry =>
    if now < expiry then .ok ⟨min (expiry - now) maxRemaining⟩
    else .error "database provisioning lease window is invalid"
  | none => .error "read database provisioning lease window"

/-! ## Stages -/

def databaseProvisioningCleanupSource : Stage → Bool
  | .createStarted | .createUncertain | .upstreamCreated | .grantStarted | .cleanupRequired
  | .cleanupInProgress => true
  | _ => false

def validProvisioningTransition (source target : Stage) (cleanup : CleanupStatus) : Bool :=
  match target with
  | .createStarted => source == .reserved && cleanup == .none
  | .upstreamCreated => source == .createStarted && cleanup == .none
  | .createUncertain => source == .createStarted && cleanup == .required
  | .grantStarted => source == .upstreamCreated && cleanup == .none
  | .activationPending =>
    (source == .grantStarted || source == .activationPending) && cleanup == .none
  | .notCreated =>
    (source == .reserved || source == .createStarted || source == .cleanupInProgress ||
      source == .notCreated) && cleanup == .none
  | .dropStarted =>
    (source == .deprovisionRequested || source == .dropUncertain) && cleanup == .inProgress
  | .dropUncertain => source == .dropStarted && cleanup == .required
  | .cleanupRequired =>
    databaseProvisioningCleanupSource source && (cleanup == .required || cleanup == .failed)
  | .cleanupInProgress => databaseProvisioningCleanupSource source && cleanup == .inProgress
  | _ => false

def safeProvisioningErrorCode : LastError → Bool
  | .other _ => false
  | _ => true

structure Transition where
  stage : Stage
  cleanupStatus : CleanupStatus
  lastError : LastError := .none
  incrementAttempt : Bool := false
  releaseLease : Bool := false
  deriving DecidableEq

/-! ## Changes of a row -/

namespace Operation

/-- A stage change. -/
def transitioned (row : Operation) (now : Time) (transition : Transition) : Operation :=
  { row with
    stage := transition.stage
    cleanupStatus := transition.cleanupStatus
    lastError := transition.lastError
    revision := row.revision + 1
    attemptCount := if transition.incrementAttempt then row.attemptCount + 1 else row.attemptCount
    lastAttemptAt := if transition.incrementAttempt then some now else row.lastAttemptAt
    leaseOwner := if transition.releaseLease then "" else row.leaseOwner
    leaseToken := if transition.releaseLease then "" else row.leaseToken
    leaseExpiresAt := if transition.releaseLease then none else row.leaseExpiresAt
    updatedAt := now }

/-- A lease claimed or renewed. -/
def leased (row : Operation) (now : Time) (lease : Lease) (expiry : Time) : Operation :=
  { row with
    leaseOwner := lease.owner
    leaseToken := lease.token
    leaseExpiresAt := some expiry
    revision := row.revision + 1
    updatedAt := now }

def activated (row : Operation) (now : Time) : Operation :=
  { row with
    stage := .activeManaged
    lastError := .none
    leaseOwner := ""
    leaseToken := ""
    leaseExpiresAt := none
    revision := row.revision + 1
    updatedAt := now }

/-- The removal of the account is requested. -/
def requested (row : Operation) (now : Time) (lease : Lease) (expiry : Time) : Operation :=
  { row with
    stage := .deprovisionRequested
    cleanupStatus := .none
    leaseOwner := lease.owner
    leaseToken := lease.token
    leaseExpiresAt := some expiry
    revision := row.revision + 1
    updatedAt := now }

/-- A soft deletion; the revision stays. -/
def deleted (row : Operation) (now : Time) : Operation :=
  { row with active := false, updatedAt := now }

/-- The managed account an operation is for. -/
def account (row : Operation) (id : String) : Account where
  id := id
  instanceId := row.instanceId
  username := row.username
  password := row.password
  managed := true
  upstreamHost := row.host
  expiresAt := row.expiresAt
  status := "active"
  provisioningOperationId := some row.id
  active := true

end Operation

/-- A soft deletion of an account. -/
def Account.deleted (row : Account) : Account :=
  { row with active := false, status := "disabled" }

/-- An update of an account; an empty text changes nothing. -/
def Account.updated (row : Account) (username password : String) (expiresAt : Option Time)
    (status : String) : Account :=
  { row with
    username := if username = "" then row.username else username
    password := if password = "" then row.password else password
    expiresAt := expiresAt
    status := if status = "" then row.status else status }

/-- A lease with its texts trimmed. -/
def Lease.trimmed (lease : Lease) : Lease :=
  { lease with owner := trimSpace lease.owner, token := trimSpace lease.token }

namespace Database

/-! ## Scopes -/

/-- The instance of an account has not been deleted. -/
def instanceActive (db : Database) (id : String) : Bool :=
  (db.instances.get? id).any Instance.active

def activeDatabaseAccountScope (db : Database) (account : Account) : Bool :=
  account.active && db.instanceActive account.instanceId

/-- `DatabaseProvisioningOperation`: the active row of an operation. -/
def operation? (db : Database) (id : String) : Option Operation :=
  (db.operations.get? id).filter Operation.active

/-- `ProvisionedDatabaseAccountByOperation`. -/
def provisionedDatabaseAccountByOperation (db : Database) (operationId : String) :
    Option Account :=
  db.accounts.rows.find? fun account =>
    db.activeDatabaseAccountScope account &&
      account.provisioningOperationId == some (trimSpace operationId)

/-- `DatabaseProvisioningOperationByIdempotency`. -/
def databaseProvisioningOperationByIdempotency (db : Database) (actorId key : String) :
    Option Operation :=
  db.operations.rows.find? fun operation =>
    operation.active && operation.actorId == trimSpace actorId &&
      operation.idempotencyKey == some (trimSpace key)

/-! ## Transactions on operations

A transaction ends with an error and no change, or commits.  `now` is the time of the conditional
update and `later` the time of the last statement. -/

/-- The update of `TransitionDatabaseProvisioningOperation`; the flag says whether the fence held.
-/
def transitionDatabaseProvisioningOperation (db : Database) (now : Time) (expected : Fence)
    (transition : Transition) : Except String (Database × Bool) :=
  if !validProvisioningTransition expected.stage transition.stage transition.cleanupStatus ||
      !safeProvisioningErrorCode transition.lastError then
    .error "invalid database provisioning transition"
  else
    let condition := fun row : Operation =>
      row.active && provisioningFenceCondition expected row && validLeaseCondition now row
    if db.operations.count condition = 0 then .ok (db, false)
    else
      .ok ({ db with
        operations := db.operations.updateWhere condition (·.transitioned now transition)
          fun _ => rfl }, true)

/-- `updateProvisioningLease`. -/
def updateProvisioningLease (db : Database) (now later : Time) (expected : Fence) (lease : Lease)
    (claim : Bool) : Except String (Database × Option (Operation × LeaseWindow)) := do
  let expiresAt ← leaseExpiryExpression now lease.duration
  let condition := fun row : Operation =>
    row.active && provisioningFenceCondition expected row && leaseCondition claim now row
  if db.operations.count condition = 0 then return (db, none)
  let updated := { db with
    operations := db.operations.updateWhere condition (·.leased now lease expiresAt)
      fun _ => rfl }
  match updated.operation? expected.id with
  | none => .error "update database provisioning lease"
  | some row =>
    let window ← leaseWindow later row lease.duration
    return (updated, some (row, window))

def claimDatabaseProvisioningOperation (db : Database) (now later : Time) (expected : Fence)
    (lease : Lease) : Except String (Database × Option (Operation × LeaseWindow)) :=
  let lease := lease.trimmed
  if lease.owner = "" ∨ lease.token = "" ∨ lease.duration = 0 then
    .error "invalid database provisioning lease"
  else db.updateProvisioningLease now later expected lease true

def renewDatabaseProvisioningOperation (db : Database) (now later : Time) (expected : Fence)
    (lease : Lease) : Except String (Database × Option (Operation × LeaseWindow)) :=
  let lease := lease.trimmed
  if lease.owner = "" ∨ lease.token = "" ∨ lease.duration = 0 ∨
      expected.leaseOwner ≠ lease.owner ∨ expected.leaseToken ≠ lease.token then
    .error "invalid database provisioning lease renewal"
  else db.updateProvisioningLease now later expected lease false

/-- `DeleteDatabaseProvisioningOperation`. -/
def deleteDatabaseProvisioningOperation (db : Database) (now : Time) (expected : Fence) :
    Database × Bool :=
  match expected.stage with
  | .reserved | .notCreated | .cleanupInProgress =>
    let condition := fun row : Operation =>
      row.active && provisioningFenceCondition expected row && validLeaseCondition now row
    ({ db with
        operations := db.operations.updateWhere condition (·.deleted now) fun _ => rfl },
      decide (db.operations.count condition = 1))
  | _ => (db, false)

/-- The update that ends an activation. -/
def activateOperation (db : Database) (now : Time) (expected : Fence) : Option Database :=
  let condition := fun row : Operation =>
    row.active && provisioningFenceCondition expected row && validLeaseCondition now row
  if db.operations.count condition = 1 then
    some { db with
      operations := db.operations.updateWhere condition (·.activated now) fun _ => rfl }
  else none

/-- Insert an account.  The active rows are unique by instance and user name and by operation. -/
def createAccount (db : Database) (account : Account) : Option Database :=
  if db.accounts.rows.any fun row => row.active &&
      ((row.instanceId == account.instanceId && row.username == account.username) ||
        (account.provisioningOperationId.isSome &&
          row.provisioningOperationId == account.provisioningOperationId)) then none
  else (db.accounts.insert? account).map fun accounts => { db with accounts := accounts }

/-- `ActivateDatabaseProvisioningOperation`.  `accountId` is the new account's id; there is none if
a name or a number for it, or the rows that go with it, could not be had. -/
def activateDatabaseProvisioningOperation (db : Database) (now later : Time)
    (accountId : Option String) (expected : Fence) :
    Except String (Database × Option Account) :=
  if expected.stage ≠ .activationPending ∨ expected.cleanupStatus ≠ .none then .ok (db, none)
  else
    match db.operations.rows.find? fun row =>
        row.active && provisioningFenceCondition expected row && validLeaseCondition now row with
    | none => .ok (db, none)
    | some operation =>
      if !validProvisioningIdentity operation.id operation.username then
        .error "activate database provisioning operation"
      else
        match db.accounts.rows.find? fun account => db.activeDatabaseAccountScope account &&
            account.provisioningOperationId == some expected.id with
        | some account =>
          if account.status ≠ "active" ∨ !account.managed ∨
              account.provisioningOperationId ≠ some operation.id then
            .error "activate database provisioning operation"
          else
            match db.activateOperation later expected with
            | some activated => .ok (activated, some account)
            | none => .ok (db, none)
        | none =>
          match accountId with
          | none => .error "activate database provisioning operation"
          | some id =>
            match db.createAccount (operation.account id) with
            | none => .error "activate database provisioning operation"
            | some created =>
              match created.activateOperation later expected with
              | some activated => .ok (activated, some (operation.account id))
              | none => .ok (db, none)

/-- `managedAccountMatchesProvisioningOperation`. -/
def managedAccountMatchesProvisioningOperation (account : Account) (operation : Operation) :
    Bool :=
  account.managed && account.provisioningOperationId == some operation.id &&
    account.username == operation.username && account.upstreamHost == operation.host &&
    validProvisioningIdentity operation.id operation.username

/-- `BeginDatabaseDeprovision`.  The flag says whether the account is managed. -/
def beginDatabaseDeprovision (db : Database) (now : Time) (accountId : String) (lease : Lease) :
    Except String (Database × Option Operation × Bool) := do
  let accountId := trimSpace accountId
  let lease := lease.trimmed
  if accountId = "" ∨ lease.owner = "" ∨ lease.token = "" ∨ lease.duration = 0 then
    .error "begin database deprovision: invalid input"
  else
    let expiresAt ← leaseExpiryExpression now lease.duration
    match (db.accounts.get? accountId).filter db.activeDatabaseAccountScope with
    | none => return (db, none, false)
    | some account =>
      match account.provisioningOperationId with
      | none => return (db, none, false)
      | some operationId =>
        if !account.managed ∨ trimSpace operationId = "" then return (db, none, false)
        match (db.operation? operationId).filter fun row =>
            row.instanceId == account.instanceId with
        | none => .error "begin database deprovision"
        | some current =>
          if !validProvisioningIdentity current.id current.username ||
              current.stage != .activeManaged || current.cleanupStatus != .none then
            .error "begin database deprovision"
          else if !managedAccountMatchesProvisioningOperation account current then
            .error "begin database deprovision"
          else
            let condition := fun row : Operation =>
              row.active && provisioningFenceCondition current.fence row &&
                expiredOrUnsetLeaseCondition now row
            if db.operations.count condition = 0 then return (db, none, true)
            let updated := { db with
              operations := db.operations.updateWhere condition
                (·.requested now lease expiresAt) fun _ => rfl }
            return (updated, updated.operation? current.id, true)

/-- `CompleteDatabaseDeprovision`; `resources` says whether the rows that go with the account could
be deleted. -/
def completeDatabaseDeprovision (db : Database) (now later : Time) (resources : Bool)
    (expected : Fence) (accountId : String) : Except String (Database × Bool) :=
  if expected.stage ≠ .dropStarted ∨ expected.cleanupStatus ≠ .inProgress then .ok (db, false)
  else
    match db.operations.rows.find? fun row =>
        row.active && provisioningFenceCondition expected row && validLeaseCondition now row with
    | none => .ok (db, false)
    | some operation =>
      if !validProvisioningIdentity operation.id operation.username then
        .error "complete database deprovision"
      else
        match (db.accounts.get? (trimSpace accountId)).filter fun account =>
            db.activeDatabaseAccountScope account &&
              account.instanceId == operation.instanceId with
        | none => .error "complete database deprovision"
        | some account =>
          if !managedAccountMatchesProvisioningOperation account operation || !resources then
            .error "complete database deprovision"
          else
            let condition := fun row : Operation =>
              row.active && provisioningFenceCondition expected row &&
                validLeaseCondition later row
            if db.operations.count condition = 1 then
              .ok ({ db with
                accounts := db.accounts.updateWhere
                  (fun row => row.id == trimSpace accountId && row.active) Account.deleted
                  fun _ => rfl
                operations := db.operations.updateWhere condition (·.deleted later)
                  fun _ => rfl }, true)
            else .ok (db, false)

/-- The input of a new operation. -/
structure OperationInput where
  id : String
  instanceId : String
  adminAccountId : String
  username : String
  password : String
  host : String
  grants : String
  expiresAt : Option Time
  actorId : String
  idempotencyKey : String
  requestHash : String
  lease : Lease
  administratorUsername : String
  administratorPassword : String
  instanceProof : String
  deriving DecidableEq

/-- The row of a new operation. -/
def OperationInput.row (input : OperationInput) (now expiry : Time) : Operation where
  id := trimSpace input.id
  instanceId := trimSpace input.instanceId
  actorId := trimSpace input.actorId
  idempotencyKey :=
    if trimSpace input.idempotencyKey = "" then none else some (trimSpace input.idempotencyKey)
  requestHash :=
    if trimSpace input.idempotencyKey = "" then "" else trimSpace input.requestHash
  adminAccountId := trimSpace input.adminAccountId
  username := trimSpace input.username
  password := input.password
  host := trimSpace input.host
  grants := input.grants
  expiresAt := input.expiresAt
  stage := .reserved
  cleanupStatus := .none
  lastError := .none
  attemptCount := 0
  lastAttemptAt := none
  revision := 1
  leaseOwner := trimSpace input.lease.owner
  leaseToken := trimSpace input.lease.token
  leaseExpiresAt := some expiry
  createdAt := now
  updatedAt := now
  active := true

def OperationInput.valid (input : OperationInput) : Bool :=
  validProvisioningIdentity (trimSpace input.id) (trimSpace input.username) &&
    trimSpace input.instanceId != "" && trimSpace input.adminAccountId != "" &&
    input.password != "" && trimSpace input.host != "" && trimSpace input.grants != "" &&
    trimSpace input.lease.owner != "" && trimSpace input.lease.token != "" &&
    input.lease.duration != 0 && trimSpace input.administratorUsername != "" &&
    input.administratorPassword != "" && (trimSpace input.instanceProof).utf8ByteSize == 64

/-- Insert an operation.  The active rows are unique by actor and key and by user name. -/
def insertOperation (db : Database) (operation : Operation) : Option Database :=
  if db.operations.rows.any fun row => row.active &&
      ((operation.idempotencyKey.isSome && row.actorId == operation.actorId &&
        row.idempotencyKey == operation.idempotencyKey) || row.username == operation.username) then
    none
  else (db.operations.insert? operation).map fun operations => { db with operations := operations }

/-- `CreateDatabaseProvisioningOperation`; `proof` is `databaseProvisioningInstanceProof`. -/
def createDatabaseProvisioningOperation (proof : Instance → String) (db : Database)
    (now later : Time) (input : OperationInput) :
    Except String (Database × Operation × LeaseWindow) := do
  if !input.valid then .error "invalid database provisioning operation"
  else
    let expiry ← leaseExpiryExpression now input.lease.duration
    let row := input.row now expiry
    match (db.instances.get? row.instanceId).filter Instance.active,
        (db.accounts.get? row.adminAccountId).filter fun account =>
          db.activeDatabaseAccountScope account && account.instanceId == row.instanceId with
    | some target, some admin =>
      if target.status ≠ "active" ∨ target.protocol ≠ "mysql" ∨ admin.status ≠ "active" ∨
          admin.password = "" ∨ admin.username ≠ input.administratorUsername ∨
          admin.password ≠ input.administratorPassword ∨
          proof target ≠ trimSpace input.instanceProof then
        .error "create database provisioning operation: database provisioning administrator changed"
      else if admin.expiresAt.any fun expiry => decide (expiry ≤ now) then
        .error "create database provisioning operation: database provisioning administrator unavailable"
      else if db.accounts.rows.any fun account => account.active &&
          account.instanceId == row.instanceId && account.username == row.username then
        .error "create database provisioning operation: database provisioning username is unavailable"
      else
        match db.insertOperation row with
        | none => .error "create database provisioning operation"
        | some created =>
          let window ← leaseWindow later row input.lease.duration
          return (created, row, window)
    | _, _ => .error "database provisioning dependency is unavailable"

/-- The stages in which an operation that is not worked on is picked up once it is stale. -/
def isStaleStage : Stage → Bool
  | .createStarted | .createUncertain | .upstreamCreated | .grantStarted | .cleanupRequired
  | .cleanupInProgress | .deprovisionRequested | .dropStarted | .dropUncertain => true
  | _ => false

/-- The rows `ListExecutableDatabaseProvisioningOperations` selects, before its order and limit. -/
def executable (now : Time) (staleAfter : Duration) (row : Operation) : Bool :=
  row.active && expiredOrUnsetLeaseCondition now row &&
    (row.stage == .activationPending ||
      (row.stage == .reserved && decide (row.createdAt ≤ now - staleAfter)) ||
      (isStaleStage row.stage &&
        decide (row.lastAttemptAt.getD row.updatedAt ≤ now - staleAfter)))

/-! ## Transactions on accounts and instances -/

/-- An operation that is not deleted needs the administrator. -/
def hasProvisioningOperationForAdministrator (db : Database) (accountId : String) : Bool :=
  db.operations.rows.any fun row => row.active && row.adminAccountId == trimSpace accountId

def hasProvisioningOperationForInstance (db : Database) (instanceId : String) : Bool :=
  db.operations.rows.any fun row => row.active && row.instanceId == trimSpace instanceId

/-- Another active account of the instance has the user name. -/
def usernameTaken (db : Database) (instanceId username exceptId : String) : Bool :=
  db.accounts.rows.any fun row => row.active && row.instanceId == instanceId &&
    row.username == username && row.id != exceptId

/-- `AddDatabaseAccount`. -/
def addDatabaseAccount (db : Database) (id instanceId username password : String)
    (expiresAt : Option Time) : Except String Database :=
  let instanceId := trimSpace instanceId
  let username := trimSpace username
  if password = "" then .error "password is required"
  else if !db.instanceActive instanceId then .error "database instance not found"
  else if username ≠ "" ∧ db.usernameTaken instanceId username "" then
    .error "database account already exists"
  else
    match db.createAccount
        { id := id
          instanceId := instanceId
          username := username
          password := password
          managed := false
          upstreamHost := ""
          expiresAt := expiresAt
          status := "active"
          provisioningOperationId := none
          active := true } with
    | some created => .ok created
    | none => .error "create database account"

/-- `UpdateDatabaseAccount`. -/
def updateDatabaseAccount (db : Database) (id username password : String)
    (expiresAt : Option Time) (status : String) : Except String Database :=
  let id := trimSpace id
  let username := trimSpace username
  match (db.accounts.get? id).filter db.activeDatabaseAccountScope with
  | none => .error "database account not found"
  | some account =>
    let changesIdentity := username != "" && username != account.username
    let changesPassword := password != ""
    let changesStatus := status != "" && status != "active"
    if (changesIdentity || changesPassword || changesStatus) &&
        db.hasProvisioningOperationForAdministrator account.id then
      .error "database administrator is referenced by provisioning operation"
    else if account.managed && (changesIdentity || changesPassword) then
      .error "managed database account identity is immutable"
    else if username ≠ "" ∧ db.usernameTaken account.instanceId username account.id then
      .error "database account already exists"
    else
      .ok { db with
        accounts := db.accounts.updateWhere (fun row => row.id == id)
          (·.updated username password expiresAt status) fun _ => rfl }

/-- `DeleteDatabaseAccount`. -/
def deleteDatabaseAccount (db : Database) (id : String) : Except String Database :=
  let id := trimSpace id
  match (db.accounts.get? id).filter db.activeDatabaseAccountScope with
  | none => .error "database account not found"
  | some account =>
    if account.managed then .error "managed database account requires deprovisioning"
    else if db.hasProvisioningOperationForAdministrator account.id then
      .error "database administrator is referenced by provisioning operation"
    else
      .ok { db with
        accounts := db.accounts.updateWhere (fun row => row.id == id && row.active)
          Account.deleted fun _ => rfl }

/-- Insert an instance. -/
def addDatabaseInstance (db : Database) (created : Instance) : Except String Database :=
  match db.instances.insert? { created with active := true } with
  | some instances => .ok { db with instances := instances }
  | none => .error "create database instance"

/-- `updateDatabaseInstance`; what a connection depends on must stay while operations need it. -/
def updateDatabaseInstance (db : Database) (id protocol endpoint status : String) :
    Except String Database :=
  let id := trimSpace id
  match (db.instances.get? id).filter Instance.active with
  | none => .error "database instance not found"
  | some current =>
    let critical := current.protocol != protocol || current.endpoint != endpoint ||
      current.status != status
    if critical && db.hasProvisioningOperationForInstance current.id then
      .error "database instance is referenced by provisioning operation"
    else
      .ok { db with
        instances := db.instances.updateWhere (fun row => row.id == id)
          (fun row => { row with protocol := protocol, endpoint := endpoint, status := status })
          fun _ => rfl }

/-- `DeleteDatabaseInstance`: with its accounts. -/
def deleteDatabaseInstance (db : Database) (id : String) : Except String Database :=
  let id := trimSpace id
  match (db.instances.get? id).filter Instance.active with
  | none => .error "database instance not found"
  | some current =>
    if db.hasProvisioningOperationForInstance current.id then
      .error "database instance is referenced by provisioning operation"
    else
      .ok { db with
        accounts := db.accounts.updateWhere (fun row => row.instanceId == id && row.active)
          Account.deleted fun _ => rfl
        instances := db.instances.updateWhere (fun row => row.id == id && row.active)
          (fun row => { row with active := false, status := "disabled" }) fun _ => rfl }

end Database
end Jianmen.Provisioning
