import Jianmen.Provisioning.Safety
import Mathlib.Data.List.Perm.Subperm

/-!
# Sagas

What holds in every pool that workers lead to: which accounts there are for an operation, which
operation an upstream account belongs to, and what requests with one idempotency key come to.
-/

namespace Jianmen.Provisioning

open List Table World

/-! ## Requests without trouble

One way in which calls are answered: every call succeeds if it can, and an account that is asked for
is created. -/

namespace World

/-- A token of twenty characters that was not used before. -/
def token (w : World) : String :=
  String.ofList (List.replicate 19 'a' ++ [Char.ofNat (97 + w.written.length)])

/-- The statement of a worker takes effect. -/
def takeEffect (w : World) (worker : ℕ) : World :=
  match w.flights.find? fun flight =>
      flight.worker == worker && !flight.applied && decide (w.clock ≤ flight.deadline) with
  | some flight => w.apply flight
  | none => w

/-- The row of a new operation is inserted. -/
def inserted (w : World) (worker : ℕ) :
    Except String (Database × Operation × LeaseWindow) → Option Operation × World
  | .ok (db, row, _) => (some row, w.insert worker row db)
  | .error _ => (none, w)

/-- The row of an operation; steadily, who has just written `create_started` gets only what it wrote
back. -/
def readBack (w : World) (steady : Bool) (worker : ℕ) (id : String) : Option Operation :=
  (w.db.operation? id).filter fun row =>
    !steady || (w.last worker id).all fun mine => mine.stage != .createStarted || row == mine

def answer (codec : Codec) (steady : Bool) (worker : ℕ) (w : World) :
    (action : Action) → Reply action × World
  | .lookup actorId key => (some (w.db.databaseProvisioningOperationByIdempotency actorId key), w)
  | .create input =>
    w.inserted worker (Database.createDatabaseProvisioningOperation codec.instanceProof w.db
      w.clock w.clock input)
  | .transition expected move =>
    match w.db.transitionDatabaseProvisioningOperation w.clock expected move with
    | .ok (db, true) =>
      match db.operation? expected.id with
      | some row => (true, w.write worker row db)
      | none => (false, w)
    | _ => (false, w)
  | .operation id => (w.readBack steady worker id, w)
  | .claim expected lease =>
    match w.db.claimDatabaseProvisioningOperation w.clock w.clock expected lease with
    | .ok (db, some (row, _)) => (some row, w.write worker row db)
    | _ => (none, w)
  | .renew expected lease =>
    match w.db.renewDatabaseProvisioningOperation w.clock w.clock expected lease with
    | .ok (db, some (row, window)) => (some (w.clock, row, window), w.write worker row db)
    | _ => (none, w)
  | .activate expected =>
    match w.db.activateDatabaseProvisioningOperation w.clock w.clock (some expected.id)
        expected with
    | .ok (db, some account) =>
      match db.operation? expected.id with
      | some row => (some account, w.write worker row db)
      | none => (none, w)
    | _ => (none, w)
  | .account operationId => (w.db.provisionedDatabaseAccountByOperation operationId, w)
  | .beginDeprovision accountId lease =>
    match w.db.beginDatabaseDeprovision w.clock accountId lease with
    | .ok (db, some row, managed) => (some (some row, managed), w.write worker row db)
    | .ok (_, none, managed) => (some (none, managed), w)
    | .error _ => (none, w)
  | .completeDeprovision expected accountId =>
    match w.db.completeDatabaseDeprovision w.clock w.clock true expected accountId with
    | .ok (db, true) => (true, { w with db := db })
    | _ => (false, w)
  | .list staleAfter _ =>
    (some (w.db.operations.rows.filter (Database.executable w.clock staleAfter)), w)
  | .administrator instanceId adminAccountId =>
    match w.db.instances.get? instanceId, w.db.accounts.get? adminAccountId with
    | some target, some admin =>
      if w.db.activeDatabaseAccountScope admin && admin.instanceId == instanceId then
        (some (target, admin), w)
      else (none, w)
    | _, _ => (none, w)
  | .proceed => (true, w)
  | .clock => (w.clock, w)
  | .random => (some w.token, w)
  | .resolveAccountHost => (some "%", w)
  | .createAccount operation deadline => ((), w.send worker operation deadline)
  | .createResult _ => ((.applied, true), (w.takeEffect worker).land worker)
  | .grantAccount _ => (true, w)
  | .dropAccount operation => (true, w.drop operation.identity)

/-- The answer, and its record. -/
def replies (codec : Codec) (steady : Bool) (worker : ℕ) (w : World) (action : Action) :
    Reply action × World :=
  let (reply, after) := w.answer codec steady worker action
  (reply, after.record worker action reply)

variable {codec : Codec} {steady : Bool} {worker : ℕ} {w : World}

/-- The account that was asked for is created before its call ends. -/
theorem takeEffect_surroundings (w : World) (worker : ℕ) :
    Relation.ReflTransGen Surroundings w (w.takeEffect worker) := by
  unfold takeEffect
  split
  · rename_i found
    have chosen := find?_some found
    simp only [Bool.and_eq_true, Bool.not_eq_true', decide_eq_true_eq] at chosen
    exact .single (.effect (mem_of_find?_eq_some found) chosen.1.2 chosen.2)
  · exact .refl

theorem inserted_performs {input : Database.OperationInput}
    {created : Except String (Database × Operation × LeaseWindow)}
    (committed : Database.createDatabaseProvisioningOperation codec.instanceProof w.db w.clock
      w.clock input = created) :
    performs codec worker w (.create input) (w.inserted worker created).1
      (w.inserted worker created).2 :=
  match created with
  | .ok (db, row, window) =>
    .inr ⟨w.clock, w.clock, row, window, db, committed, Nat.le_refl _, Nat.le_refl _, rfl, .inl rfl⟩
  | .error _ => .inl ⟨rfl, rfl⟩

/-- What is read back steadily is what the worker wrote. -/
theorem readBack_steady {id : String} (steadily : steady = true) :
    w.Steady worker (.operation id) (w.readBack steady worker id) := by
  intro mine row last started found
  obtain ⟨-, met⟩ := Option.filter_eq_some_iff.mp found
  simpa [steadily, last, started] using met

theorem readBack_eq (id : String) : w.readBack steady worker id = none ∨
    w.readBack steady worker id = w.db.operation? id := by
  unfold readBack
  cases w.db.operation? id with
  | none => exact .inl rfl
  | some row =>
    rw [Option.filter_some]
    split
    · exact .inr rfl
    · exact .inl rfl

theorem answer_performs (action : Action) (other : ∀ operation, action ≠ .createResult operation) :
    performs codec worker w action (w.answer codec steady worker action).1
      (w.answer codec steady worker action).2 := by
  generalize answered : w.answer codec steady worker action = result
  cases action with
  | lookup | account =>
    obtain rfl := answered
    exact ⟨rfl, .inr rfl⟩
  | operation id =>
    obtain rfl := answered
    exact ⟨rfl, readBack_eq id⟩
  | clock =>
    obtain rfl := answered
    exact ⟨rfl, rfl⟩
  | proceed | random | resolveAccountHost | grantAccount | createAccount =>
    obtain rfl := answered
    rfl
  | dropAccount =>
    obtain rfl := answered
    exact .inl rfl
  | createResult operation => exact absurd rfl (other operation)
  | create =>
    obtain rfl := answered
    delta answer
    exact inserted_performs rfl
  | transition expected =>
    simp only [answer] at answered
    split at answered
    · rename_i db committed
      split at answered
      · rename_i row found
        obtain rfl := answered
        exact .inr ⟨w.clock, row, db, committed, Nat.le_refl _, found, rfl⟩
      · obtain rfl := answered
        exact .inl ⟨rfl, rfl⟩
    · obtain rfl := answered
      exact .inl ⟨rfl, rfl⟩
  | claim expected lease =>
    simp only [answer] at answered
    split at answered
    · rename_i db row window committed
      obtain rfl := answered
      exact .inr ⟨w.clock, w.clock, row, window, db, committed, Nat.le_refl _, Nat.le_refl _,
        rfl, .inl rfl⟩
    · obtain rfl := answered
      exact .inl ⟨rfl, rfl⟩
  | renew expected lease =>
    simp only [answer] at answered
    split at answered
    · rename_i db row window committed
      obtain rfl := answered
      exact .inr ⟨w.clock, w.clock, w.clock, row, window, db, committed, Nat.le_refl _,
        Nat.le_refl _, Nat.le_refl _, rfl, .inl rfl⟩
    · obtain rfl := answered
      exact .inl ⟨rfl, rfl⟩
  | activate expected =>
    simp only [answer] at answered
    split at answered
    · rename_i db account committed
      split at answered
      · rename_i row found
        obtain rfl := answered
        exact .inr ⟨w.clock, w.clock, some expected.id, account, row, db, committed,
          Nat.le_refl _, Nat.le_refl _, found, rfl, .inl rfl⟩
      · obtain rfl := answered
        exact .inl ⟨rfl, rfl⟩
    · obtain rfl := answered
      exact .inl ⟨rfl, rfl⟩
  | beginDeprovision accountId lease =>
    simp only [answer] at answered
    split at answered
    · rename_i db row managed committed
      obtain rfl := answered
      exact .inr ⟨w.clock, some row, managed, db, committed, Nat.le_refl _, rfl, .inl rfl⟩
    · rename_i db managed committed
      obtain rfl := answered
      exact .inr ⟨w.clock, none, managed, db, committed, Nat.le_refl _, rfl, .inl rfl⟩
    · obtain rfl := answered
      exact .inl ⟨rfl, rfl⟩
  | completeDeprovision expected accountId =>
    simp only [answer] at answered
    split at answered
    · rename_i db committed
      obtain rfl := answered
      exact .inr ⟨w.clock, w.clock, true, db, committed, Nat.le_refl _, Nat.le_refl _, rfl⟩
    · obtain rfl := answered
      exact .inl ⟨rfl, rfl⟩
  | list =>
    obtain rfl := answered
    refine ⟨rfl, .inr ⟨w.clock, _, rfl, fun row member => ?_⟩⟩
    exact mem_filter.mp member
  | administrator =>
    simp only [answer] at answered
    split at answered
    · rename_i target_found admin_found
      split at answered
      · rename_i usable
        obtain rfl := answered
        refine ⟨rfl, fun _ _ same => ?_⟩
        cases same
        simp only [Bool.and_eq_true, beq_iff_eq] at usable
        exact ⟨target_found, admin_found, usable.1, usable.2⟩
      · obtain rfl := answered
        exact ⟨rfl, fun _ _ none => by cases none⟩
    · obtain rfl := answered
      exact ⟨rfl, fun _ _ none => by cases none⟩

theorem replied : Pool.Answers (workshop codec steady) fun worker w =>
    w.replies codec steady worker := by
  intro worker w action
  by_cases result : ∃ operation, action = .createResult operation
  · obtain ⟨operation, rfl⟩ := result
    refine ⟨w.takeEffect worker, takeEffect_surroundings w worker, fun _ refused => ?_, _, rfl, rfl⟩
    cases refused with
    | inl refused | inr refused => cases refused
  · refine ⟨w, .refl, fun steadily => ?_, _, answer_performs action fun operation same =>
      result ⟨operation, same⟩, rfl⟩
    cases action with
    | operation id => exact readBack_steady steadily
    | createResult operation => exact absurd ⟨operation, rfl⟩ result
    | _ => trivial

/-- An instance and an account for its administrator are added. -/
def furnish (w : World) (created : Instance) (id username password : String) : World :=
  let settle := fun (before : Database) (result : Except String Database) =>
    match result with
    | .ok db => db
    | .error _ => before
  let db := settle w.db (w.db.addDatabaseInstance created)
  { w with db := settle db (db.addDatabaseAccount id created.id username password none) }

theorem furnish_surroundings (w : World) (created : Instance) (id username password : String) :
    Relation.ReflTransGen Surroundings w (w.furnish created id username password) := by
  have account : ∀ w : World, Relation.ReflTransGen Surroundings w
      { w with db := match w.db.addDatabaseAccount id created.id username password none with
        | .ok db => db
        | .error _ => w.db } := by
    intro w
    split
    · next committed => exact .single (.addAccount committed)
    · exact .refl
  have target : Relation.ReflTransGen Surroundings w
      { w with db := match w.db.addDatabaseInstance created with
        | .ok db => db
        | .error _ => w.db } := by
    split
    · next committed => exact .single (.addInstance committed)
    · exact .refl
  exact target.trans (account _)

end World

section Run

/-! One service, one database instance and one request, for which everything goes well. -/

def plainCodec : Codec where
  requestHash request := String.ofList (List.replicate 63 '0' ++ request.grants.toList.take 1)
  canonicalGrants request := request.grants
  instanceProof _ := String.ofList (List.replicate 64 '1')
  validateMySQLProvisioning _ _ _ _ := true

def plainService : Service where
  workerId := "worker"
  leaseDuration := 1000000
  cleanupTimeout := 0
  reconcileStaleAfter := 1000

def plainRequest : Request where
  instanceId := "orders"
  adminAccountId := "root"
  grants := "read"
  expiresAt := none
  actorId := "operator"
  idempotencyKey := "provision-retry-key"

/-- The operation of the request, and its account. -/
def plainOperation : String := "jmo_aaaaaaaaaaaaaaaaaaaa"

/-- The program of a request. -/
def requesting (s : Service) (request : Request) : Job Outcome :=
  s.provision plainCodec request >>= fun result => pure (.provision request result)

/-- Calls are answered steadily. -/
def steadily (worker : ℕ) (w : World) (action : Action) : Reply action × World :=
  w.replies plainCodec true worker action

/-- Before any request. -/
def furnished : Pool World Reply Outcome where
  shared := World.furnish {} ⟨"orders", "mysql", "127.0.0.1:3306", "active", true⟩ "root" "root"
    "secret"
  workers := []

/-- After the request. -/
def provisioned : Pool World Reply Outcome :=
  furnished.serve steadily (requesting plainService plainRequest)

/-- After its account has been removed again. -/
def deprovisioned : Pool World Reply Outcome :=
  provisioned.serve steadily
    (plainService.deprovision (fun _ => true) plainOperation >>= fun error =>
      pure (.deprovision plainOperation error))

/-- After the same request once more. -/
def provisionedAgain : Pool World Reply Outcome :=
  deprovisioned.serve steadily (requesting plainService plainRequest)

theorem furnished_reachable : SteadilyReachable plainCodec (fun _ => true) furnished :=
  Pool.Reachable.surroundings .refl (furnish_surroundings ..)

theorem provisioned_reachable : SteadilyReachable plainCodec (fun _ => true) provisioned :=
  furnished_reachable.serve replied (.provision plainService plainRequest)

theorem deprovisioned_reachable : SteadilyReachable plainCodec (fun _ => true) deprovisioned :=
  provisioned_reachable.serve replied (.deprovision plainService plainOperation)

theorem provisionedAgain_reachable :
    SteadilyReachable plainCodec (fun _ => true) provisionedAgain :=
  deprovisioned_reachable.serve replied (.provision plainService plainRequest)

end Run

variable {codec : Codec} {validHost : String → Bool} {pool : Pool World Reply Outcome}

theorem SteadilyReachable.reachable (reachable : SteadilyReachable codec validHost pool) :
    Reachable codec validHost pool :=
  Pool.Reachable.mono reachable
    (fun ⟨_, performed⟩ => ⟨fun never => (nomatch never), performed⟩) fun changed => changed

/-! ## Accounts and operations -/

/-- An operation has an active managed account exactly while its row is in a stage for it. -/
theorem managed_account_iff_live_saga (reachable : Reachable codec validHost pool) (id : String) :
    (pool.shared.db.managedAccounts id).length ≤ 1 ∧
      ((pool.shared.db.managedAccounts id).length = 1 ↔
        ∃ row, pool.shared.db.operation? id = some row ∧ row.stage.live = true) := by
  have managed : pool.shared.db.Managed := by
    refine @Pool.Reachable.shared _ _ _ _ _ _ _ _ reachable (fun w => w.db.Managed) .empty ?_ ?_
    · rintro worker before action reply _ managed ⟨-, after, performed, rfl⟩
      obtain same | commits := World.performs_commits performed
      · exact same ▸ managed
      · exact managed.commits commits
    · intro before after managed changed
      obtain same | commits := @World.surroundings_commits codec _ _ changed
      · exact same ▸ managed
      · exact managed.commits commits
  exact managed.accounts_iff id

theorem managed_account_iff_live_saga_provisioned :
    (provisioned.shared.db.managedAccounts plainOperation).length = 1 ∧
      ∃ row, provisioned.shared.db.operation? plainOperation = some row ∧
        row.stage.live = true := by
  have one : (provisioned.shared.db.managedAccounts plainOperation).length = 1 := by
    decide +kernel
  exact ⟨one,
    (managed_account_iff_live_saga provisioned_reachable.reachable plainOperation).2.mp one⟩

/-! ## Upstream accounts and operations -/

variable {steady : Bool}

theorem Orderly.empty : Orderly steady {} where
  named := fun _ _ found => nomatch found
  unique := fun _ member => nomatch member
  current := fun _ member => nomatch member
  authored := fun _ _ found => nomatch found
  flights := fun _ _ member => nomatch member
  called := fun _ member => nomatch member
  created := fun _ member => nomatch member
  present := fun _ member => nomatch member
  callers := fun _ member => nomatch member
  once := nodup_nil
  upstream := fun _ member => nomatch member
  asked := fun _ member => nomatch member
  keyed := fun found => nomatch found

/-- Everything is in order, and every worker keeps to the discipline. -/
theorem reachable_orderly
    (reachable : Pool.Reachable (World.workshop codec steady) (Started codec validHost) {} pool) :
    Orderly steady pool.shared ∧
      (discipline steady).Settled (Stance.Holds steady) (Concludes codec) pool := by
  have fresh : ∀ worker, Stance.Holds steady {} worker {} := fun worker =>
    { standing := fun _ member => nomatch member
      rows := fun _ member => nomatch member
      past := fun _ member => nomatch member
      written := fun _ member => nomatch member
      found := rfl
      lost := rfl }
  obtain ⟨orderly, settled, -⟩ := discipline_sound.reachable Orderly.empty
    (fun _ started => started_safe started) fresh reachable
  exact ⟨orderly, settled⟩

/-- A stage in which there may be an upstream account is looked after, or the account is in use. -/
theorem Stage.upstream_cases {stage : Stage} (upstream : stage.upstream) :
    stage = .activeManaged ∨ stage = .activationPending ∨ Database.isStaleStage stage := by
  revert upstream
  cases stage <;> decide

/-- Where all calls are steady, an upstream account that exists belongs to an operation which is in
use or which the reconciler finds, once its lease has expired and it is stale. -/
theorem upstream_account_recoverable (reachable : SteadilyReachable codec validHost pool) :
    (∀ identity ∈ pool.shared.upstream,
      ∃ row ∈ pool.shared.db.operations.rows, row.identity = identity) ∧
    ∀ row ∈ pool.shared.db.operations.rows, row.identity ∈ pool.shared.upstream →
      row.active = true ∧ row.stage ≠ .notCreated ∧
      (row.stage = .activeManaged ∨ ∀ now staleAfter, expiredOrUnsetLeaseCondition now row = true →
        row.lastAttemptAt.getD row.updatedAt ≤ now - staleAfter →
        Database.executable now staleAfter row = true) := by
  obtain ⟨orderly, -⟩ := reachable_orderly reachable
  refine ⟨fun identity member => ?_, fun row row_mem member => ?_⟩
  · obtain ⟨row, row_mem, same, -⟩ := orderly.upstream identity member
    exact ⟨row, row_mem, same⟩
  obtain ⟨owner, owner_mem, same, living, -⟩ := orderly.upstream row.identity member
  obtain ⟨active, stage⟩ := living rfl
  have ids := (orderly.named _ owner (Table.get?_of_mem owner_mem)).id_eq
    (orderly.named _ row (Table.get?_of_mem row_mem)) same
  obtain rfl := Table.eq_of_key owner_mem row_mem ids
  refine ⟨active, fun given_up => ?_, ?_⟩
  · rw [given_up] at stage
    cases stage
  · obtain in_use | pending | found := Stage.upstream_cases stage
    · exact .inl in_use
    · refine .inr fun now staleAfter expired _ => ?_
      simp [Database.executable, active, expired, pending]
    · refine .inr fun now staleAfter expired stale => ?_
      simp [Database.executable, active, expired, found, stale]

theorem upstream_account_recoverable_provisioned : provisioned.shared.upstream.length = 1 ∧
      ∀ row ∈ provisioned.shared.db.operations.rows, row.identity ∈ provisioned.shared.upstream →
        row.active = true ∧ row.stage ≠ .notCreated := by
  refine ⟨by decide +kernel, fun row row_mem member => ?_⟩
  obtain ⟨active, created, -⟩ :=
    (upstream_account_recoverable provisioned_reachable).2 row row_mem member
  exact ⟨active, created⟩

section Overtaken

/-! A request with a lease of 11 seconds and calls of at most 10 seconds, and a reconciler that
takes operations to be stale after a second.  The request has written `create_started` 5 seconds
after it began; the reconciler claims the operation at 12 seconds and writes `cleanup_in_progress`,
and only then the request looks at the row.  Its lease is renewed under the reconciler's own fence,
and the reconciler goes on from the renewed row in the same way. -/

def hastyService : Service where
  workerId := "worker"
  leaseDuration := 11000000000
  cleanupTimeout := 10000000000
  reconcileStaleAfter := 1000000000

/-- Calls are answered with what is there. -/
def plainly (worker : ℕ) (w : World) (action : Action) : Reply action × World :=
  w.replies plainCodec false worker action

/-- After the calls of the request up to `create_started`. -/
def requested : Pool World Reply Outcome :=
  (replicate 11 0).foldl (Pool.act plainly)
    { furnished with workers := [some (requesting hastyService plainRequest)] }

/-- After the update to `create_started`. -/
def stalled : Pool World Reply Outcome :=
  [0].foldl (Pool.act plainly)
    { requested with shared := { requested.shared with clock := 5000000000 } }

/-- The reconciler starts. -/
def reconciling : Pool World Reply Outcome where
  shared := { stalled.shared with clock := 12000000000 }
  workers := stalled.workers ++ [some (hastyService.reconcile (fun _ => true) 10 >>= fun finished =>
    pure (.reconcile finished))]

/-- The reconciler writes `cleanup_in_progress`, the request reads the row, renews it and asks for
the account; the reconciler reads the row, renews it, drops the account and gives the operation up.
-/
def overtaken : Pool World Reply Outcome :=
  (replicate 7 1 ++ replicate 6 0 ++ replicate 7 1).foldl (Pool.act plainly) reconciling

/-- The statement that was sent takes effect. -/
def orphaned : Pool World Reply Outcome :=
  { overtaken with shared := overtaken.shared.takeEffect 0 }

theorem orphaned_reachable : Reachable plainCodec (fun _ => true) orphaned := by
  have started : Reachable plainCodec (fun _ => true)
      { furnished with workers := [some (requesting hastyService plainRequest)] } :=
    furnished_reachable.reachable.tail (.start (.provision hastyService plainRequest))
  have waited : Reachable plainCodec (fun _ => true)
      { requested with shared := { requested.shared with clock := 5000000000 } } :=
    (Pool.Reachable.turns replied started _).tail (.surroundings (.tick (by decide +kernel)))
  have lapsed : Reachable plainCodec (fun _ => true)
      { stalled with shared := { stalled.shared with clock := 12000000000 } } :=
    (Pool.Reachable.turns replied waited _).tail (.surroundings (.tick (by decide +kernel)))
  have reconciling : Reachable plainCodec (fun _ => true) reconciling :=
    lapsed.tail (.start (.reconcile hastyService 10))
  exact (Pool.Reachable.turns replied reconciling _).surroundings (takeEffect_surroundings ..)

/-- An account exists upstream whose operation was given up. -/
theorem upstream_account_orphaned : Reachable plainCodec (fun _ => true) orphaned ∧
    ∃ row ∈ orphaned.shared.db.operations.rows, row.identity ∈ orphaned.shared.upstream ∧
      row.stage = .notCreated := by
  refine ⟨orphaned_reachable, ?_⟩
  decide +kernel

end Overtaken

/-- The account of an operation is asked for once in the whole history, by whom made the operation.
-/
theorem account_requested_once (reachable : Reachable codec validHost pool) :
    (pool.shared.calls.map fun call => call.2.id).Nodup ∧
      ∀ call ∈ pool.shared.calls, ∃ made ∈ pool.shared.created, made.1 = call.1 ∧
        made.2.id = call.2.id ∧
        ∀ other ∈ pool.shared.created, other.2.id = made.2.id → other = made := by
  obtain ⟨orderly, -⟩ := reachable_orderly reachable
  refine ⟨orderly.once, fun call called => ?_⟩
  obtain ⟨first, listed, own⟩ := orderly.callers call called
  exact ⟨_, listed, rfl, own, fun other created => orderly.created other created _ listed⟩

theorem account_requested_once_provisioned : provisioned.shared.calls.length = 1 ∧
    (provisioned.shared.calls.map fun call => call.2.id).Nodup :=
  ⟨by decide +kernel, (account_requested_once provisioned_reachable.reachable).1⟩

/-! ## Idempotency keys -/

/-- The operations of a key of an actor, with those that have been deleted. -/
def World.operationsOf (w : World) (actorId key : String) : List Operation :=
  w.db.operations.rows.filter fun row => row.actorId == actorId && row.idempotencyKey == some key

/-- The calls of `CreateAccount` for the key. -/
def World.callsOf (w : World) (actorId key : String) : List (ℕ × Operation) :=
  w.calls.filter fun call => call.2.actorId == actorId && call.2.idempotencyKey == some key

/-- The request uses the key of the actor. -/
def Request.Uses (request : Request) (actorId key : String) : Prop :=
  trimSpace request.actorId = actorId ∧
    normalizeDatabaseProvisioningIdempotencyKey request.idempotencyKey = some key

variable {actorId key : String} {w : World}

theorem mem_operationsOf {row : Operation} :
    row ∈ w.operationsOf actorId key ↔ row ∈ w.db.operations.rows ∧ row.actorId = actorId ∧
      row.idempotencyKey = some key := by
  simp [operationsOf]

/-- At most one operation of the key is not deleted. -/
theorem Orderly.active_eq (orderly : Orderly steady w) {first second : Operation}
    (first_mem : first ∈ w.operationsOf actorId key)
    (second_mem : second ∈ w.operationsOf actorId key) (first_active : first.active)
    (second_active : second.active) : first = second := by
  obtain ⟨first_stored, first_actor, first_key⟩ := mem_operationsOf.mp first_mem
  obtain ⟨second_stored, second_actor, second_key⟩ := mem_operationsOf.mp second_mem
  apply eq_of_key first_stored second_stored
  refine orderly.keyed (get?_of_mem first_stored) (get?_of_mem second_stored)
    first_active second_active (first_actor.trans second_actor.symm)
    (first_key.trans second_key.symm) ?_
  rw [first_key]
  rfl

theorem Orderly.active_le_one (orderly : Orderly steady w) (actorId key : String) :
    ((w.operationsOf actorId key).filter Operation.active).length ≤ 1 := by
  rw [operationsOf, filter_filter]
  refine length_filter_le_one fun first first_mem second second_mem first_met second_met => ?_
  simp only [Bool.and_eq_true, beq_iff_eq] at first_met second_met
  exact orderly.active_eq (mem_operationsOf.mpr ⟨first_mem, first_met.2⟩)
    (mem_operationsOf.mpr ⟨second_mem, second_met.2⟩) first_met.1 second_met.1

/-- Every call is for another operation of the key. -/
theorem Orderly.callsOf_le (orderly : Orderly steady w) (actorId key : String) :
    (w.callsOf actorId key).length ≤ (w.operationsOf actorId key).length := by
  have distinct : ((w.callsOf actorId key).map fun call => call.2.id).Nodup :=
    orderly.once.sublist ((filter_sublist).map _)
  have known : ((w.callsOf actorId key).map fun call => call.2.id) ⊆
      (w.operationsOf actorId key).map Operation.id := by
    intro id member
    obtain ⟨call, called, rfl⟩ := mem_map.mp member
    obtain ⟨called, asked⟩ := mem_filter.mp called
    simp only [Bool.and_eq_true, beq_iff_eq] at asked
    obtain ⟨row, found, origin, -⟩ := orderly.current call (orderly.asked call called)
    refine mem_map.mpr ⟨row, mem_operationsOf.mpr ⟨get?_mem found, ?_, ?_⟩, get?_key found⟩
    · exact (congrArg Origin.actorId origin).trans asked.1
    · exact (congrArg Origin.idempotencyKey origin).trans asked.2
  have counted := (subperm_of_subset distinct known).length_le
  rwa [length_map, length_map] at counted

/-- Every row that was written is of an operation of its key. -/
theorem Orderly.operationsOf_of_written (orderly : Orderly steady w) {worker : ℕ} {row : Operation}
    (written : (worker, row) ∈ w.written) (actor : row.actorId = actorId)
    (keyed : row.idempotencyKey = some key) : ∃ current ∈ w.operationsOf actorId key,
      current.id = row.id ∧ current.requestHash = row.requestHash := by
  obtain ⟨current, found, origin, -⟩ := orderly.current _ written
  refine ⟨current, mem_operationsOf.mpr ⟨get?_mem found, ?_, ?_⟩, get?_key found,
    congrArg Origin.requestHash origin⟩
  · exact (congrArg Origin.actorId origin).trans actor
  · exact (congrArg Origin.idempotencyKey origin).trans keyed

/-- A request that has ended, with a row of the operation that it answers about. -/
theorem request_ended (reachable : Reachable codec validHost pool) {worker : ℕ} {request : Request}
    {result : Except ProvisioningError Provisioned} (uses : request.Uses actorId key)
    (named : key ≠ "") (ended : pool.Runs worker (.done (.provision request result))) :
    (Answers result = true → ∃ row ∈ pool.shared.operationsOf actorId key,
      trimSpace row.requestHash = trimSpace (codec.requestHash request) ∧
      ∀ provisioned, result = .ok provisioned → row.id = provisioned.operationId) ∧
    (result = .error .idempotencyConflict ↔
      ∃ row ∈ pool.shared.found worker, row.requestHash ≠ codec.requestHash request) ∧
    (∀ row ∈ pool.shared.found worker, ∃ current ∈ pool.shared.operationsOf actorId key,
      current.id = row.id ∧ current.requestHash = row.requestHash) ∧
    pool.shared.lost worker = false := by
  obtain ⟨orderly, settled⟩ := reachable_orderly reachable
  obtain ⟨stance, holds, concludes⟩ := settled worker _ ended
  have provides := concludes request result key rfl uses.2 named
  rw [← holds.found, ← holds.lost]
  refine ⟨fun answers => ?_, provides.conflict, fun row member => ?_, provides.sure⟩
  · obtain ⟨row, known, asked, ids⟩ := provides.about answers
    obtain ⟨writer, written⟩ : ∃ writer, (writer, row) ∈ pool.shared.written := by
      obtain member | member := known
      · obtain ⟨writer, written, -⟩ := holds.rows row member
        exact ⟨writer, written⟩
      · exact holds.written row member
    obtain ⟨current, listed, same, hash⟩ :=
      orderly.operationsOf_of_written written (asked.actor.trans uses.1) asked.key
    refine ⟨current, listed, ?_, fun provisioned ok => same.trans (ids provisioned ok)⟩
    rw [hash, asked.hash]
  · obtain ⟨actor, keyed⟩ := provides.keyed row member
    obtain ⟨writer, written⟩ := holds.written row member
    exact orderly.operationsOf_of_written written (actor.trans uses.1) keyed

/-- A request looks its key up first, and is refused if it finds another hash. -/
theorem provision_lookup {s : Service} {request : Request} (uses : request.Uses actorId key)
    (actor : actorId ≠ "") (named : key ≠ "") :
    ∃ rest, s.provision codec request = .call (.lookup request.actorId key) rest ∧
      ∀ row : Operation, row.requestHash ≠ codec.requestHash request →
        rest (some (some row)) = .done (.error .idempotencyConflict) := by
  obtain ⟨actor_eq, accepted⟩ := uses
  unfold Service.provision
  rw [accepted]
  dsimp only
  rw [if_neg named, if_neg (actor_eq ▸ actor)]
  exact ⟨_, rfl, fun row other => if_pos other⟩

/-- The lookup finds the one active operation of the key. -/
theorem Orderly.lookup (orderly : Orderly steady w) {request : Request}
    (uses : request.Uses actorId key) {row : Operation} (member : row ∈ w.operationsOf actorId key)
    (active : row.active) :
    w.db.databaseProvisioningOperationByIdempotency request.actorId key = some row := by
  obtain ⟨stored, actor_eq, key_eq⟩ := mem_operationsOf.mp member
  have trimmed := normalize_trimmed uses.2
  unfold Database.databaseProvisioningOperationByIdempotency
  rw [uses.1, trimmed]
  cases found : w.db.operations.rows.find? fun operation =>
      operation.active && operation.actorId == actorId && operation.idempotencyKey == some key with
  | none =>
    have missed := find?_eq_none.mp found row stored
    simp [active, actor_eq, key_eq] at missed
  | some =>
    have chosen := find?_some found
    simp only [Bool.and_eq_true, beq_iff_eq] at chosen
    have other_mem := mem_operationsOf.mpr ⟨mem_of_find?_eq_some found, chosen.1.2, chosen.2⟩
    exact congrArg some (orderly.active_eq other_mem member chosen.1.1 active)

/-- No operation is inserted while there is an active one with its key. -/
theorem insertion_fails {worker : ℕ} {input : Database.OperationInput} {reply : Option Operation}
    {next : World} {row : Operation} (member : row ∈ w.operationsOf actorId key)
    (active : row.active) (named : key ≠ "") (actor : trimSpace input.actorId = actorId)
    (keyed : trimSpace input.idempotencyKey = key)
    (performed : World.performs codec worker w (.create input) reply next) :
    reply = none ∧ next = w := by
  obtain ⟨stored, actor_eq, key_eq⟩ := mem_operationsOf.mp member
  obtain ⟨rfl, rfl⟩ | ⟨now, later, new, window, db, committed, -⟩ := performed
  · exact ⟨rfl, rfl⟩
  obtain ⟨expiry, -, -, rfl, inserted, -⟩ := Database.create_inv committed
  obtain ⟨-, -, -, -, free⟩ := Database.insertOperation_inv inserted
  have key_new : (input.row now expiry).idempotencyKey = some key := by
    simp [Database.OperationInput.row, keyed, named]
  refine absurd (key_eq.trans key_new.symm) ((free row stored active).1 ?_ ?_)
  · rw [key_new]
    rfl
  · exact actor_eq.trans actor.symm

/-- What requests with one key of one actor come to. -/
structure Idempotent (codec : Codec) (pool : Pool World Reply Outcome) (actorId key : String) :
    Prop where
  /-- `CreateAccount` is called once for each operation of the key, and all these but one have been
  deleted. -/
  calls : (pool.shared.callsOf actorId key).length ≤
    ((pool.shared.operationsOf actorId key).filter (!·.active)).length + 1
  /-- An answer comes from an operation of the key with the hash of the request.  A request is
  refused exactly if it has found a row of the key with another hash, and after an insertion that
  came to nothing it looks again. -/
  answered : ∀ worker request result, request.Uses actorId key →
    pool.Runs worker (.done (.provision request result)) →
    (Answers result = true → ∃ row ∈ pool.shared.operationsOf actorId key,
      trimSpace row.requestHash = trimSpace (codec.requestHash request) ∧
      ∀ provisioned, result = .ok provisioned → row.id = provisioned.operationId) ∧
    (result = .error .idempotencyConflict ↔
      ∃ row ∈ pool.shared.found worker, row.requestHash ≠ codec.requestHash request) ∧
    (∀ row ∈ pool.shared.found worker, ∃ current ∈ pool.shared.operationsOf actorId key,
      current.id = row.id ∧ current.requestHash = row.requestHash) ∧
    pool.shared.lost worker = false
  /-- The accounts that requests return come from one operation, unless it has been deleted. -/
  same : ∀ worker request first other repeated second, request.Uses actorId key →
    repeated.Uses actorId key → pool.Runs worker (.done (.provision request (.ok first))) →
    pool.Runs other (.done (.provision repeated (.ok second))) →
    first.operationId = second.operationId ∨
      ∃ row ∈ pool.shared.operationsOf actorId key, row.active = false ∧
        (row.id = first.operationId ∨ row.id = second.operationId)
  /-- While an operation of the key is active, a lookup that succeeds finds it. -/
  finds : ∀ row ∈ pool.shared.operationsOf actorId key, row.active = true →
    ∀ worker (request : Request) reply next, request.Uses actorId key →
      World.performs codec worker pool.shared (.lookup request.actorId key) reply next →
      reply = none ∨ reply = some (some row)
  /-- While an operation of the key is active, no other one is inserted. -/
  inserts : ∀ row ∈ pool.shared.operationsOf actorId key, row.active = true →
    ∀ worker (input : Database.OperationInput) reply next, trimSpace input.actorId = actorId →
      trimSpace input.idempotencyKey = key →
      World.performs codec worker pool.shared (.create input) reply next →
      reply = none ∧ next = pool.shared
  /-- A request looks its key up first, and is refused if it finds another hash. -/
  first : actorId ≠ "" → ∀ (s : Service) (request : Request), request.Uses actorId key →
    ∃ rest, s.provision codec request = .call (.lookup request.actorId key) rest ∧
      ∀ row : Operation, row.requestHash ≠ codec.requestHash request →
        rest (some (some row)) = .done (.error .idempotencyConflict)

/-- Requests are idempotent for as long as the operation of their key has not been deleted. -/
theorem requests_idempotent (reachable : Reachable codec validHost pool) (actorId : String)
    (named : key ≠ "") : Idempotent codec pool actorId key := by
  obtain ⟨orderly, -⟩ := reachable_orderly reachable
  constructor
  · have parts := @List.length_eq_length_filter_add _ (pool.shared.operationsOf actorId key)
      Operation.active
    have calls := orderly.callsOf_le actorId key
    have active := orderly.active_le_one actorId key
    omega
  · intro worker request result uses ended
    exact request_ended reachable uses named ended
  · intro worker request first other repeated second uses repeated_uses ended repeated_ended
    obtain ⟨row, row_mem, -, row_id⟩ := (request_ended reachable uses named ended).1 rfl
    obtain ⟨late, late_mem, -, late_id⟩ :=
      (request_ended reachable repeated_uses named repeated_ended).1 rfl
    cases active : row.active with
    | false => exact .inr ⟨row, row_mem, active, .inl (row_id first rfl)⟩
    | true =>
      cases late_active : late.active with
      | false => exact .inr ⟨late, late_mem, late_active, .inr (late_id second rfl)⟩
      | true =>
        obtain rfl := orderly.active_eq row_mem late_mem active late_active
        exact .inl ((row_id first rfl).symm.trans (late_id second rfl))
  · rintro row member active worker request reply next uses ⟨-, rfl | rfl⟩
    · exact .inl rfl
    · exact .inr (congrArg some (orderly.lookup uses member active))
  · intro row member active worker input reply next actor keyed performed
    exact insertion_fails member active named actor keyed performed
  · intro actor s request uses
    exact provision_lookup uses actor named

/-- A second request with the key is for other grants. -/
def contested : Pool World Reply Outcome :=
  provisioned.serve steadily (requesting plainService { plainRequest with grants := "write" })

theorem contested_reachable : SteadilyReachable plainCodec (fun _ => true) contested :=
  provisioned_reachable.serve replied (.provision plainService _)

theorem requests_idempotent_contested :
    (contested.shared.callsOf "operator" "provision-retry-key").length = 1 ∧
      Idempotent plainCodec contested "operator" "provision-retry-key" ∧
      ∃ row ∈ contested.shared.found 1,
        row.requestHash ≠ plainCodec.requestHash { plainRequest with grants := "write" } := by
  have idempotent := @requests_idempotent plainCodec (fun _ => true) contested
    "provision-retry-key" contested_reachable.reachable "operator" (by decide)
  refine ⟨by decide +kernel, idempotent, ?_⟩
  exact (idempotent.answered 1 _ _ ⟨by decide +kernel, by decide +kernel⟩ rfl).2.1.mp rfl

/-- After its account has been removed, the same request creates another one. -/
theorem deleted_key_provisions_again : Reachable plainCodec (fun _ => true) provisionedAgain ∧
    plainRequest.Uses "operator" "provision-retry-key" ∧
    (provisionedAgain.shared.callsOf "operator" "provision-retry-key").length = 2 := by
  refine ⟨provisionedAgain_reachable.reachable, ⟨?_, ?_⟩, ?_⟩
  · decide +kernel
  · decide +kernel
  · decide +kernel

end Jianmen.Provisioning
