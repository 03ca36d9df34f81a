import Jianmen.Library.Workers
import Jianmen.Provisioning.Store

/-!
# The programs of the provisioning service

A request provisions an account: it reserves an operation, has the account created and granted on
the upstream server, and activates the operation.  A reconciler takes over operations nobody works
on and finishes or cleans up what was begun.  Another request removes an account.  Here are the
three programs, with the calls they make on the store and on the upstream server.
-/

namespace Jianmen.Provisioning

/-! ## Calls -/

/-- What an upstream server says of a new account. -/
inductive Disposition where
  | notSent
  | notCreated
  | mayBeApplied
  | applied
  deriving DecidableEq

inductive Action where
  | lookup (actorId key : String)
  | create (input : Database.OperationInput)
  | transition (expected : Fence) (move : Transition)
  | operation (id : String)
  | claim (expected : Fence) (lease : Lease)
  | renew (expected : Fence) (lease : Lease)
  | activate (expected : Fence)
  | account (operationId : String)
  | beginDeprovision (accountId : String) (lease : Lease)
  | completeDeprovision (expected : Fence) (accountId : String)
  | list (staleAfter : Duration) (limit : ℕ)
  | administrator (instanceId adminAccountId : String)
  /-- Ask whether the context of the request is alive, or an audit record could be written. -/
  | proceed
  | clock
  | random
  | resolveAccountHost
  /-- Send the statement that creates the account. -/
  | createAccount (operation : Operation) (deadline : Time)
  /-- Receive what became of it. -/
  | createResult (operation : Operation)
  | grantAccount (operation : Operation)
  | dropAccount (operation : Operation)

/-- Replies; an error, or a fence that was lost, is no reply. -/
def Reply : Action → Type
  | .lookup .. => Option (Option Operation)
  | .create .. | .claim .. | .operation _ => Option Operation
  | .transition .. => Bool
  | .renew .. => Option (Time × Operation × LeaseWindow)
  | .activate .. | .account .. => Option Account
  | .beginDeprovision .. => Option (Option Operation × Bool)
  | .completeDeprovision .. => Bool
  | .list .. => Option (List Operation)
  | .administrator .. => Option (Instance × Account)
  | .proceed => Bool
  | .clock => Time
  | .random | .resolveAccountHost => Option String
  | .createAccount .. => Unit
  | .createResult .. => Disposition × Bool
  | .grantAccount .. | .dropAccount .. => Bool

/-- A program of the service. -/
abbrev Job (α : Type) := Program Reply α

namespace Job

/-- Make a call. -/
def ask (action : Action) : Job (Reply action) :=
  .perform action

def databaseProvisioningOperationByIdempotency (actorId key : String) :
    Job (Option (Option Operation)) :=
  ask (.lookup actorId key)

def createDatabaseProvisioningOperation (input : Database.OperationInput) :
    Job (Option Operation) :=
  ask (.create input)

def databaseProvisioningOperation (id : String) : Job (Option Operation) :=
  ask (.operation id)

/-- The update of a transition. -/
def updateDatabaseProvisioningOperation (expected : Fence) (move : Transition) : Job Bool :=
  ask (.transition expected move)

/-- `TransitionDatabaseProvisioningOperation`: the row is read by its id after the update. -/
def transitionDatabaseProvisioningOperation (expected : Fence) (move : Transition) :
    Job (Option Operation) := do
  if ← updateDatabaseProvisioningOperation expected move then
    databaseProvisioningOperation expected.id
  else return none

/-- `transitionDetached`. -/
def transitionDetached (operation : Operation) (move : Transition) : Job (Option Operation) :=
  transitionDatabaseProvisioningOperation operation.fence move

def claimDatabaseProvisioningOperation (expected : Fence) (lease : Lease) :
    Job (Option Operation) :=
  ask (.claim expected lease)

/-- The reply has the time at which the call was made. -/
def renewDatabaseProvisioningOperation (expected : Fence) (lease : Lease) :
    Job (Option (Time × Operation × LeaseWindow)) :=
  ask (.renew expected lease)

def activateDatabaseProvisioningOperation (expected : Fence) : Job (Option Account) :=
  ask (.activate expected)

def provisionedDatabaseAccountByOperation (operationId : String) : Job (Option Account) :=
  ask (.account operationId)

def beginDatabaseDeprovision (accountId : String) (lease : Lease) :
    Job (Option (Option Operation × Bool)) :=
  ask (.beginDeprovision accountId lease)

def completeDatabaseDeprovision (expected : Fence) (accountId : String) : Job Bool :=
  ask (.completeDeprovision expected accountId)

def listExecutableDatabaseProvisioningOperations (staleAfter : Duration) (limit : ℕ) :
    Job (Option (List Operation)) :=
  ask (.list staleAfter limit)

def databaseProvisioningAdmin (instanceId adminAccountId : String) :
    Job (Option (Instance × Account)) :=
  ask (.administrator instanceId adminAccountId)

def proceed : Job Bool :=
  ask .proceed

def clock : Job Time :=
  ask .clock

def random : Job (Option String) :=
  ask .random

def resolveAccountHost : Job (Option String) :=
  ask .resolveAccountHost

/-- The account is asked for, and later the answer is received. -/
def createAccount (operation : Operation) (deadline : Time) : Job (Disposition × Bool) := do
  let _ ← ask (.createAccount operation deadline)
  ask (.createResult operation)

def grantAccount (operation : Operation) : Job Bool :=
  ask (.grantAccount operation)

def dropAccount (operation : Operation) : Job Bool :=
  ask (.dropAccount operation)

end Job

/-! ## Requests -/

structure Request where
  instanceId : String
  adminAccountId : String
  grants : String
  expiresAt : Option Time
  actorId : String
  idempotencyKey : String
  deriving DecidableEq

/-- What is computed outside: the canonical hash of a request, its grants in canonical form and as a
text, the proof of an instance, and whether an account may be created. -/
structure Codec where
  requestHash : Request → String
  canonicalGrants : Request → String
  instanceProof : Instance → String
  validateMySQLProvisioning : String → String → String → String → Bool

/-- A service and its options. -/
structure Service where
  workerId : String
  leaseDuration : Duration
  cleanupTimeout : Duration
  reconcileStaleAfter : Duration

inductive ProvisioningError where
  | failed
  | cleanupRequired
  | invalidRequest
  | idempotencyConflict
  | inProgress
  deriving DecidableEq

inductive DeprovisionError where
  | failed
  | notManaged
  | inProgress
  deriving DecidableEq

/-- The account of a request and the operation it comes from. -/
structure Provisioned where
  account : Account
  operationId : String
  deriving DecidableEq

/-- `ValidateDatabaseProvisioningIdempotencyKey`. -/
def validateDatabaseProvisioningIdempotencyKey (value : String) : Option String :=
  let key := trimSpace value
  if key.utf8ByteSize < 16 ∨ 128 < key.utf8ByteSize then none
  else if key.toList.all fun character =>
      ('a' ≤ character && character ≤ 'z') || ('A' ≤ character && character ≤ 'Z') ||
        ('0' ≤ character && character ≤ '9') || "-_.:".toList.contains character then some key
  else none

/-- `normalizeDatabaseProvisioningIdempotencyKey`. -/
def normalizeDatabaseProvisioningIdempotencyKey (value : String) : Option String :=
  if trimSpace value = "" then some "" else validateDatabaseProvisioningIdempotencyKey value

/-- `validateProvisioningAdministratorForNewUse`. -/
def validateProvisioningAdministratorForNewUse (target : Instance) (admin : Account) (now : Time) :
    Bool :=
  target.status == "active" && admin.status == "active" && target.protocol == "mysql" &&
    (admin.expiresAt.all fun expiry => decide (now < expiry)) && admin.password != ""

/-- `validateProvisioningAdministratorForRecovery`. -/
def validateProvisioningAdministratorForRecovery (target : Instance) (admin : Account) : Bool :=
  target.status == "active" && admin.status == "active" && target.protocol == "mysql" &&
    admin.password != ""

/-- `operationOwnsUpstreamIdentity`. -/
def operationOwnsUpstreamIdentity (operation : Operation) : Bool :=
  operation.id.toList.take 4 == "jmo_".toList &&
    (String.ofList (operation.id.toList.drop 4)).utf8ByteSize == 20 &&
    operation.username.toList == "jm_".toList ++ operation.id.toList.drop 4

/-- `managedAccountMatchesOperation`. -/
def managedAccountMatchesOperation (account : Account) (operation : Operation) : Bool :=
  account.managed && account.provisioningOperationId == some operation.id &&
    account.username == operation.username && account.upstreamHost == operation.host &&
    operationOwnsUpstreamIdentity operation

/-! ## Steps that several programs take -/

namespace Service

open Job

variable (s : Service)

/-- `sideEffectTimeout`: a call has to end before the lease does. -/
def sideEffectTimeout (window : LeaseWindow) : Option Duration :=
  if window.remaining ≤ 1 ∨ s.leaseDuration ≤ 1 then none
  else
    let margin :=
      if s.cleanupTimeout = 0 ∨ window.remaining ≤ s.cleanupTimeout then window.remaining / 4
      else s.cleanupTimeout
    let timeout := window.remaining - margin
    if timeout = 0 ∨ window.remaining ≤ timeout then none
    else
      let timeout := if s.leaseDuration ≤ timeout then s.leaseDuration - 1 else timeout
      if 0 < timeout ∧ timeout < window.remaining ∧ timeout < s.leaseDuration then some timeout
      else none

/-- `renewForSideEffect`: the renewed operation and the deadline of the call. -/
def renewForSideEffect (operation : Operation) : Job (Option (Operation × Time)) := do
  if !(← proceed) then return none
  match ← renewDatabaseProvisioningOperation operation.fence
      ⟨operation.leaseOwner, operation.leaseToken, s.leaseDuration⟩ with
  | none => return none
  | some (started, renewed, window) =>
    match s.sideEffectTimeout window with
    | none => return none
    | some timeout =>
      if ← proceed then return some (renewed, started + timeout) else return none

/-- `discardNotCreatedOperation`. -/
def discardNotCreatedOperation (operation : Operation) : Job Unit := do
  let _ ← transitionDetached operation
    { stage := .notCreated, cleanupStatus := .none, releaseLease := true }

/-- `persistCleanupFailure`. -/
def persistCleanupFailure (operation : Operation) : Job Unit := do
  let _ ← transitionDetached operation
    { stage := .cleanupRequired, cleanupStatus := .failed, lastError := .cleanupFailed,
      releaseLease := true }

/-- `deferCleanupForReconcile`. -/
def deferCleanupForReconcile (operation : Operation) (reason : LastError) : Job Unit := do
  let _ ← transitionDetached operation
    { stage := .cleanupRequired, cleanupStatus := .required, lastError := reason,
      releaseLease := true }

/-- `releaseActivationForReconcile`. -/
def releaseActivationForReconcile (operation : Operation) : Job Unit := do
  let _ ← transitionDetached operation
    { stage := .activationPending, cleanupStatus := .none, lastError := .activationFailed,
      incrementAttempt := true, releaseLease := true }

/-- `deferDropUncertain`. -/
def deferDropUncertain (operation : Operation) : Job Unit := do
  let _ ← transitionDetached operation
    { stage := .dropUncertain, cleanupStatus := .required, lastError := .cleanupFailed,
      releaseLease := true }

/-- `activateDetached`: two attempts. -/
def activateDetached (operation : Operation) : Job (Option Account) := do
  match ← activateDatabaseProvisioningOperation operation.fence with
  | some account => return some account
  | none => activateDatabaseProvisioningOperation operation.fence

/-- `cleanupOperation`. -/
def cleanupOperation (operation : Operation) (reason : LastError) : Job ProvisioningError := do
  if !operationOwnsUpstreamIdentity operation then return .cleanupRequired
  match ← transitionDetached operation
      { stage := .cleanupRequired, cleanupStatus := .required, lastError := reason } with
  | none => return .cleanupRequired
  | some required =>
    match ← transitionDetached required
        { stage := .cleanupInProgress, cleanupStatus := .inProgress, lastError := reason,
          incrementAttempt := true } with
    | none => return .cleanupRequired
    | some inProgress =>
      match ← s.renewForSideEffect inProgress with
      | none => return .cleanupRequired
      | some (updated, _) =>
        if !(← proceed) then return .cleanupRequired
        if !(← dropAccount updated) then
          persistCleanupFailure updated
          return .cleanupRequired
        match ← transitionDetached updated
            { stage := .notCreated, cleanupStatus := .none, lastError := reason,
              releaseLease := true } with
        | none => return .cleanupRequired
        | some _ => return .failed

/-- `cleanupUncertainCreate`. -/
def cleanupUncertainCreate (operation : Operation) : Job ProvisioningError := do
  match ← transitionDetached operation
      { stage := .createUncertain, cleanupStatus := .required, lastError := .createUncertain } with
  | none => return .cleanupRequired
  | some uncertain => s.cleanupOperation uncertain .createUncertain

/-! ## Provisioning -/

/-- `idempotentProvisioningResult`. -/
def idempotentProvisioningResult (operation : Operation) :
    Job (Except ProvisioningError Provisioned) := do
  match operation.stage with
  | .activeManaged =>
    match ← provisionedDatabaseAccountByOperation operation.id with
    | none => return .error .failed
    | some account => return .ok ⟨account, operation.id⟩
  | .cleanupRequired | .cleanupInProgress | .createUncertain => return .error .cleanupRequired
  | .notCreated => return .error .failed
  | _ => return .error .inProgress

/-- `CreateOrGetDatabaseProvisioningOperation`; the flag says whether the operation is new. -/
def createOrGetDatabaseProvisioningOperation (input : Database.OperationInput) :
    Job (Except ProvisioningError (Operation × Bool)) := do
  if trimSpace input.actorId = "" ∨ trimSpace input.idempotencyKey = "" ∨
      (trimSpace input.requestHash).utf8ByteSize ≠ 64 then
    return .error .failed
  match ← databaseProvisioningOperationByIdempotency input.actorId input.idempotencyKey with
  | none => return .error .failed
  | some (some operation) =>
    if operation.requestHash ≠ input.requestHash then return .error .idempotencyConflict
    return .ok (operation, false)
  | some none =>
    match ← createDatabaseProvisioningOperation input with
    | some operation => return .ok (operation, true)
    | none =>
      match ← databaseProvisioningOperationByIdempotency input.actorId input.idempotencyKey with
      | some (some operation) =>
        if operation.requestHash ≠ input.requestHash then return .error .idempotencyConflict
        return .ok (operation, false)
      | _ => return .error .failed

/-- What `Provision` does with an account that has been created upstream. -/
def grantAndActivate (operation : Operation) : Job (Except ProvisioningError Provisioned) := do
  match ← transitionDetached operation { stage := .upstreamCreated, cleanupStatus := .none } with
  | none => return .error .cleanupRequired
  | some created =>
    match ← transitionDetached created { stage := .grantStarted, cleanupStatus := .none } with
    | none => return .error .cleanupRequired
    | some granting =>
      match ← s.renewForSideEffect granting with
      | none =>
        deferCleanupForReconcile granting .grantFailed
        return .error .failed
      | some (renewed, _) =>
        if !(← proceed) then
          deferCleanupForReconcile renewed .grantFailed
          return .error .failed
        if !(← grantAccount renewed) then
          return .error (← s.cleanupOperation renewed .grantFailed)
        match ← transitionDetached renewed
            { stage := .activationPending, cleanupStatus := .none } with
        | none => return .error .failed
        | some pending =>
          match ← activateDetached pending with
          | none =>
            releaseActivationForReconcile pending
            return .error .failed
          | some account => return .ok ⟨account, pending.id⟩

/-- What `Provision` does with an operation it has created. -/
def createUpstream (operation : Operation) : Job (Except ProvisioningError Provisioned) := do
  if !(← proceed) then
    discardNotCreatedOperation operation
    return .error .failed
  match ← transitionDetached operation
      { stage := .createStarted, cleanupStatus := .none, incrementAttempt := true } with
  | none => return .error .failed
  | some started =>
    match ← s.renewForSideEffect started with
    | none => return .error .failed
    | some (renewed, deadline) =>
      if !(← proceed) then return .error .failed
      match ← createAccount renewed deadline with
      | (.notSent, _) | (.notCreated, _) =>
        discardNotCreatedOperation renewed
        return .error .failed
      | (.applied, true) => s.grantAndActivate renewed
      | (.applied, false) | (.mayBeApplied, _) =>
        return .error (← s.cleanupUncertainCreate renewed)

/-- What `Provision` does for a request whose operation is not known yet. -/
def provisionNew (codec : Codec) (request : Request) (key hash : String) :
    Job (Except ProvisioningError Provisioned) := do
  match ← databaseProvisioningAdmin (trimSpace request.instanceId)
      (trimSpace request.adminAccountId) with
  | none => return .error .failed
  | some (target, admin) =>
    if !validateProvisioningAdministratorForNewUse target admin (← clock) then
      return .error .failed
    if !(← proceed) then return .error .failed
    match ← resolveAccountHost, ← random, ← random, ← random with
    | some host, some token, some password, some leaseToken =>
      let username := "jm_" ++ token
      if !codec.validateMySQLProvisioning username password host request.grants then
        return .error .invalidRequest
      let input : Database.OperationInput :=
        { id := "jmo_" ++ token
          instanceId := trimSpace request.instanceId
          adminAccountId := trimSpace request.adminAccountId
          username := username
          password := password
          host := host
          grants := request.grants
          expiresAt := request.expiresAt
          actorId := request.actorId
          idempotencyKey := key
          requestHash := hash
          lease := ⟨s.workerId, leaseToken, s.leaseDuration⟩
          administratorUsername := admin.username
          administratorPassword := admin.password
          instanceProof := codec.instanceProof target }
      if key = "" then
        match ← createDatabaseProvisioningOperation input with
        | none => return .error .failed
        | some operation => s.createUpstream operation
      else
        match ← createOrGetDatabaseProvisioningOperation input with
        | .error error => return .error error
        | .ok (operation, true) => s.createUpstream operation
        | .ok (operation, false) => idempotentProvisioningResult operation
    | _, _, _, _ => return .error .failed

/-- `Provision`. -/
def provision (codec : Codec) (request : Request) :
    Job (Except ProvisioningError Provisioned) := do
  match normalizeDatabaseProvisioningIdempotencyKey request.idempotencyKey with
  | none => return .error .invalidRequest
  | some key =>
    if key = "" then s.provisionNew codec request key ""
    else if trimSpace request.actorId = "" then return .error .invalidRequest
    else
      match ← databaseProvisioningOperationByIdempotency request.actorId key with
      | none => return .error .failed
      | some (some operation) =>
        if operation.requestHash ≠ codec.requestHash request then
          return .error .idempotencyConflict
        idempotentProvisioningResult operation
      | some none =>
        s.provisionNew codec { request with grants := codec.canonicalGrants request } key
          (codec.requestHash request)

/-! ## Deprovisioning -/

/-- `runDeprovision`. -/
def runDeprovision (accountId : String) (account : Account) (operation : Operation)
    (validHost : String → Bool) : Job (Option DeprovisionError) := do
  if !managedAccountMatchesOperation account operation || !validHost operation.host then
    return some .failed
  let usable ← databaseProvisioningAdmin operation.instanceId operation.adminAccountId
  if !usable.any fun found => validateProvisioningAdministratorForRecovery found.1 found.2 then
    deferDropUncertain operation
    return some .failed
  let started ←
    if operation.stage ≠ .dropStarted then
      transitionDetached operation
        { stage := .dropStarted, cleanupStatus := .inProgress, incrementAttempt := true }
    else if operation.cleanupStatus ≠ .inProgress then pure none
    else pure (some operation)
  match started with
  | none => return some .inProgress
  | some dropping =>
    match ← s.renewForSideEffect dropping with
    | none =>
      deferDropUncertain dropping
      return some .failed
    | some (renewed, _) =>
      if !(← dropAccount renewed) then
        deferDropUncertain renewed
        return some .failed
      if !(← completeDatabaseDeprovision renewed.fence accountId) then
        deferDropUncertain renewed
        return some .failed
      return none

/-- `Deprovision`. -/
def deprovision (validHost : String → Bool) (accountId : String) :
    Job (Option DeprovisionError) := do
  match ← random with
  | none => return some .failed
  | some token =>
    match ← beginDatabaseDeprovision accountId ⟨s.workerId, token, s.leaseDuration⟩ with
    | none => return some .failed
    | some (_, false) => return some .notManaged
    | some (none, true) => return some .failed
    | some (some operation, true) =>
      match ← provisionedDatabaseAccountByOperation operation.id with
      | none => return some .failed
      | some account =>
        if !managedAccountMatchesOperation account operation then return some .failed
        if operation.stage ≠ .deprovisionRequested then return some .inProgress
        s.runDeprovision accountId account operation validHost

/-! ## Reconciling -/

/-- `databaseProvisioningStageRequiresCleanup`. -/
def databaseProvisioningStageRequiresCleanup : Stage → Bool
  | .createStarted | .createUncertain | .upstreamCreated | .grantStarted | .cleanupRequired
  | .cleanupInProgress => true
  | _ => false

/-- `finalizeNotCreatedOperation`. -/
def finalizeNotCreatedOperation (operation : Operation) (reason : LastError) : Job Bool := do
  let finalized ← transitionDetached operation
    { stage := .notCreated, cleanupStatus := .none, lastError := reason, releaseLease := true }
  return finalized.isSome

/-- `reconcileCleanup`. -/
def reconcileCleanup (operation : Operation) : Job Bool := do
  if !operationOwnsUpstreamIdentity operation then
    persistCleanupFailure operation
    return false
  let usable ← databaseProvisioningAdmin operation.instanceId operation.adminAccountId
  if !usable.any fun found => validateProvisioningAdministratorForRecovery found.1 found.2 then
    persistCleanupFailure operation
    return false
  if !(← proceed) then
    persistCleanupFailure operation
    return false
  match ← transitionDetached operation
      { stage := .cleanupInProgress, cleanupStatus := .inProgress,
        lastError := operation.lastError, incrementAttempt := true } with
  | none => return false
  | some cleaning =>
    match ← s.renewForSideEffect cleaning with
    | none => return false
    | some (renewed, _) =>
      if !(← proceed) then return false
      if !(← dropAccount renewed) then
        persistCleanupFailure renewed
        return false
      if !(← finalizeNotCreatedOperation renewed renewed.lastError) then
        persistCleanupFailure renewed
        return false
      return true

/-- `reconcileDeprovision`. -/
def reconcileDeprovision (validHost : String → Bool) (operation : Operation) : Job Bool := do
  match ← provisionedDatabaseAccountByOperation operation.id with
  | none => return false
  | some account =>
    if !managedAccountMatchesOperation account operation then return false
    return (← s.runDeprovision account.id account operation validHost).isNone

/-- What `Reconcile` does with an operation it has claimed. -/
def reconcileClaimed (validHost : String → Bool) (claimed : Operation) : Job Bool := do
  match claimed.stage with
  | .reserved => finalizeNotCreatedOperation claimed .none
  | .activationPending =>
    match ← activateDetached claimed with
    | none =>
      releaseActivationForReconcile claimed
      return false
    | some account =>
      if account.status ≠ "active" then
        releaseActivationForReconcile claimed
        return false
      return true
  | .deprovisionRequested | .dropStarted | .dropUncertain =>
    s.reconcileDeprovision validHost claimed
  | stage =>
    if !databaseProvisioningStageRequiresCleanup stage then return false
    s.reconcileCleanup claimed

/-- The loop of `Reconcile`; the result counts the operations that went well. -/
def reconcileEach (validHost : String → Bool) : List Operation → Job ℕ
  | [] => return 0
  | candidate :: rest => do
      if !(← proceed) then return 0
      let claimed ← (do
        match ← random with
        | none => return none
        | some token =>
          claimDatabaseProvisioningOperation candidate.fence ⟨s.workerId, token, s.leaseDuration⟩)
      let finished ←
        match claimed with
        | none => pure false
        | some operation => s.reconcileClaimed validHost operation
      let others ← reconcileEach validHost rest
      return (if finished then others + 1 else others)

/-- `Reconcile`. -/
def reconcile (validHost : String → Bool) (limit : ℕ) : Job ℕ := do
  match ← listExecutableDatabaseProvisioningOperations s.reconcileStaleAfter limit with
  | none => return 0
  | some operations => s.reconcileEach validHost operations

end Service
end Jianmen.Provisioning
