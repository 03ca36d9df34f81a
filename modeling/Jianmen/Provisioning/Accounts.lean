import Jianmen.Provisioning.Transactions

/-!
# Managed accounts

An active managed account and the operation it comes from live and die together: activating the
operation inserts the account, completing its removal deletes both, and nothing else that goes
through the store can part them.
-/

namespace Jianmen.Provisioning

open Table Option

/-- The stages of an operation whose account is in the database. -/
def Stage.live : Stage → Bool
  | .activeManaged | .deprovisionRequested | .dropStarted | .dropUncertain => true
  | _ => false

theorem transition_live {source target : Stage} {cleanup : CleanupStatus}
    (valid : validProvisioningTransition source target cleanup) :
    target.live = source.live := by
  revert valid
  cases source <;> cases target <;> cases cleanup <;> decide

/-- The operation is active and has its account. -/
def Operation.live (row : Operation) : Bool :=
  row.active && row.stage.live

namespace Database

/-- The active managed accounts of an operation. -/
def managedAccounts (db : Database) (operationId : String) : List Account :=
  db.accounts.rows.filter fun account =>
    account.active && account.managed && account.provisioningOperationId == some operationId

/-- A transaction of the store that commits. -/
inductive Commits (proof : Instance → String) (db next : Database) : Prop where
  | transition {now : Time} {expected : Fence} {move : Transition} {updated : Bool}
      (committed : db.transitionDatabaseProvisioningOperation now expected move =
        .ok (next, updated))
  | claim {now later : Time} {expected : Fence} {lease : Lease}
      {result : Option (Operation × LeaseWindow)}
      (committed : db.claimDatabaseProvisioningOperation now later expected lease =
        .ok (next, result))
  | renew {now later : Time} {expected : Fence} {lease : Lease}
      {result : Option (Operation × LeaseWindow)}
      (committed : db.renewDatabaseProvisioningOperation now later expected lease =
        .ok (next, result))
  | activate {now later : Time} {accountId : Option String} {expected : Fence}
      {result : Option Account}
      (committed : db.activateDatabaseProvisioningOperation now later accountId expected =
        .ok (next, result))
  | beginDeprovision {now : Time} {accountId : String} {lease : Lease}
      {result : Option Operation} {managed : Bool}
      (committed : db.beginDatabaseDeprovision now accountId lease = .ok (next, result, managed))
  | completeDeprovision {now later : Time} {resources : Bool} {expected : Fence}
      {accountId : String} {result : Bool}
      (committed : db.completeDatabaseDeprovision now later resources expected accountId =
        .ok (next, result))
  | delete {now : Time} {expected : Fence}
      (committed : (db.deleteDatabaseProvisioningOperation now expected).1 = next)
  | create {now later : Time} {input : OperationInput} {row : Operation} {window : LeaseWindow}
      (committed : createDatabaseProvisioningOperation proof db now later input =
        .ok (next, row, window))
  | addAccount {id instanceId username password : String} {expiresAt : Option Time}
      (committed : db.addDatabaseAccount id instanceId username password expiresAt = .ok next)
  | updateAccount {id username password : String} {expiresAt : Option Time} {status : String}
      (committed : db.updateDatabaseAccount id username password expiresAt status = .ok next)
  | deleteAccount {id : String} (committed : db.deleteDatabaseAccount id = .ok next)
  | addInstance {created : Instance} (committed : db.addDatabaseInstance created = .ok next)
  | updateInstance {id protocol endpoint status : String}
      (committed : db.updateDatabaseInstance id protocol endpoint status = .ok next)
  | deleteInstance {id : String} (committed : db.deleteDatabaseInstance id = .ok next)

/-- Operations and managed accounts go together. -/
structure Managed (db : Database) : Prop where
  /-- The accounts that come from an operation are the managed ones. -/
  kind : ∀ account ∈ db.accounts.rows,
    account.managed = true ↔ account.provisioningOperationId.isSome = true
  /-- The operation of an active account is active, and its account is there. -/
  saga : ∀ account ∈ db.accounts.rows, account.active = true → ∀ id,
    account.provisioningOperationId = some id → ∃ row, db.operations.get? id = some row ∧
      row.live = true ∧ row.instanceId = account.instanceId
  present : ∀ id row, db.operations.get? id = some row → row.live = true →
    ∃ account ∈ db.accounts.rows, account.active = true ∧
      account.provisioningOperationId = some id
  unique : ∀ first ∈ db.accounts.rows, ∀ second ∈ db.accounts.rows, first.active = true →
    second.active = true → ∀ id, first.provisioningOperationId = some id →
    second.provisioningOperationId = some id → first = second

variable {db next : Database}

theorem Managed.empty : Managed {} where
  kind := fun _ member => nomatch member
  saga := fun _ member => nomatch member
  present := fun _ _ found => nomatch found
  unique := fun _ member => nomatch member

section

variable (managed : Managed db)
include managed

/-- An operation changes, but not whether its account is there. -/
theorem Managed.rewrites {old new : Operation} (rewrites : Rewrites db next old new)
    (live : new.live = old.live) (instance_eq : new.instanceId = old.instanceId) :
    Managed next := by
  obtain ⟨operations, accounts, -⟩ := rewrites
  constructor
  · rw [accounts]
    exact managed.kind
  · rw [accounts]
    intro account member active id operation
    obtain ⟨row, found, facts⟩ := managed.saga account member active id operation
    exact operations.later found facts fun facts => ⟨live ▸ facts.1, instance_eq.trans facts.2⟩
  · rw [accounts]
    intro id row found row_live
    obtain ⟨rfl, rfl⟩ | found := operations.earlier found
    · exact managed.present old.id old operations.present (live ▸ row_live)
    · exact managed.present id row found row_live
  · rw [accounts]
    exact managed.unique

/-- An account without operation comes, goes or changes. -/
theorem Managed.accounts (operations : next.operations = db.operations)
    (back : ∀ account ∈ next.accounts.rows, (account.managed = false ∧
        account.provisioningOperationId = none) ∨
      ∃ before ∈ db.accounts.rows, before.id = account.id ∧ before.managed = account.managed ∧
        before.provisioningOperationId = account.provisioningOperationId ∧
        before.instanceId = account.instanceId ∧
        (account.active → before.active))
    (forth : ∀ account ∈ db.accounts.rows, account.active →
      account.provisioningOperationId.isSome → ∃ after ∈ next.accounts.rows,
        after.active ∧ after.provisioningOperationId = account.provisioningOperationId) :
    Managed next := by
  constructor
  · intro account member
    obtain ⟨plain, none⟩ | ⟨before, before_mem, -, kind, same, -⟩ := back account member
    · simp [plain, none]
    · rw [← kind, ← same]
      exact managed.kind before before_mem
  · intro account member active id operation
    obtain ⟨-, none⟩ | ⟨before, before_mem, -, -, same, instance_eq, was_active⟩ :=
      back account member
    · rw [none] at operation
      cases operation
    · rw [operations, ← instance_eq]
      exact managed.saga before before_mem (was_active active) id (same.trans operation)
  · intro id row found live
    rw [operations] at found
    obtain ⟨account, member, active, operation⟩ := managed.present id row found live
    obtain ⟨after, after_mem, after_active, same⟩ := forth account member active (by
      rw [operation]; rfl)
    exact ⟨after, after_mem, after_active, same.trans operation⟩
  · intro first first_mem second second_mem first_active second_active id first_of second_of
    obtain ⟨-, none⟩ | ⟨before, before_mem, key, -, same, -, was_active⟩ := back first first_mem
    · rw [none] at first_of
      cases first_of
    obtain ⟨-, none⟩ | ⟨other, other_mem, other_key, -, other_same, -, other_was⟩ :=
      back second second_mem
    · rw [none] at second_of
      cases second_of
    have equal : before = other := managed.unique before before_mem other other_mem
      (was_active first_active) (other_was second_active) id (same.trans first_of)
      (other_same.trans second_of)
    exact eq_of_key first_mem second_mem (key.symm.trans ((congrArg _ equal).trans other_key))

/-- Some rows of accounts change, and those that come from an operation stay active. -/
theorem Managed.updateWhere {condition : Account → Bool} (change : Account → Account)
    (keeps : ∀ row, (change row).id = row.id) (operations : next.operations = db.operations)
    (accounts : next.accounts = db.accounts.updateWhere condition change keeps)
    (same : ∀ row, (change row).managed = row.managed ∧
      (change row).provisioningOperationId = row.provisioningOperationId ∧
      (change row).instanceId = row.instanceId)
    (shrinks : ∀ row, (change row).active → row.active)
    (stays : ∀ row ∈ db.accounts.rows, condition row → row.active →
      row.provisioningOperationId.isSome → (change row).active) : Managed next := by
  refine managed.accounts operations ?_ ?_
  · intro account member
    rw [accounts] at member
    obtain ⟨before, before_mem, rfl⟩ := mem_updateWhere.mp member
    refine .inr ⟨before, before_mem, ?_⟩
    split
    · obtain ⟨kind, operation, instance_eq⟩ := same before
      exact ⟨(keeps before).symm, kind.symm, operation.symm, instance_eq.symm, shrinks before⟩
    · exact ⟨rfl, rfl, rfl, rfl, id⟩
  · intro account member active operation
    rw [accounts]
    refine ⟨_, mem_updateWhere.mpr ⟨account, member, rfl⟩, ?_⟩
    split
    · rename_i chosen
      exact ⟨stays account member chosen active operation, (same account).2.1⟩
    · exact ⟨active, rfl⟩

variable {proof : Instance → String} {id username password : String} {expiresAt : Option Time}
  {now later : Time} {expected : Fence}

theorem Managed.createAccount {account : Account}
    (plain : account.managed = false ∧ account.provisioningOperationId = none)
    (committed : db.createAccount account = some next) : Managed next := by
  obtain ⟨operations, -, fresh, rows, -⟩ := createAccount_inv committed
  have old_mem : ∀ row ∈ db.accounts.rows, row ∈ next.accounts.rows := by
    intro row member
    have present := get?_of_mem member
    refine get?_mem (k := row.id) ?_
    rw [rows, if_neg, present]
    intro same
    rw [same, present] at fresh
    cases fresh
  refine managed.accounts operations ?_ ?_
  · intro row member
    have found := get?_of_mem member
    rw [rows] at found
    split at found
    · cases found
      exact .inl plain
    · exact .inr ⟨row, get?_mem found, rfl, rfl, rfl, rfl, id⟩
  · intro row member active _
    exact ⟨row, old_mem row member, active, rfl⟩

theorem Managed.addAccount {instanceId : String}
    (committed : db.addDatabaseAccount id instanceId username password expiresAt = .ok next) :
    Managed next := by
  simp only [addDatabaseAccount] at committed
  split at committed
  · cases committed
  split at committed
  · cases committed
  split at committed
  · cases committed
  split at committed
  · rename_i inserted
    cases committed
    exact managed.createAccount ⟨rfl, rfl⟩ inserted
  · cases committed

theorem Managed.updateAccount {status : String}
    (committed : db.updateDatabaseAccount id username password expiresAt status = .ok next) :
    Managed next := by
  simp only [updateDatabaseAccount] at committed
  split at committed
  · cases committed
  split at committed
  · cases committed
  split at committed
  · cases committed
  split at committed
  · cases committed
  rw [← Except.ok.inj committed]
  refine managed.updateWhere (·.updated (trimSpace username) password expiresAt status)
    (fun _ => rfl) rfl rfl ?_ ?_ ?_
  · exact fun _ => ⟨rfl, rfl, rfl⟩
  · intro row active
    exact active
  · intro row _ _ active _
    exact active

theorem Managed.deleteAccount (committed : db.deleteDatabaseAccount id = .ok next) :
    Managed next := by
  simp only [deleteDatabaseAccount] at committed
  split at committed
  · cases committed
  rename_i account found
  split at committed
  · cases committed
  rename_i plain
  split at committed
  · cases committed
  cases committed
  refine managed.updateWhere Account.deleted (fun _ => rfl) rfl rfl (fun _ => ⟨rfl, rfl, rfl⟩)
    (fun _ active => by cases active) ?_
  intro row member chosen active operation
  have present := (filter_eq_some_iff.mp found).1
  simp only [Bool.and_eq_true, beq_iff_eq] at chosen
  obtain rfl : row = account := eq_of_key member (get?_mem present)
    (chosen.1.trans (get?_key present).symm)
  exact absurd ((managed.kind row member).mpr operation) plain

theorem Managed.deleteInstance (committed : db.deleteDatabaseInstance id = .ok next) :
    Managed next := by
  simp only [deleteDatabaseInstance] at committed
  split at committed
  · cases committed
  rename_i current found
  split at committed
  · cases committed
  rename_i idle
  cases committed
  refine managed.updateWhere Account.deleted (fun _ => rfl) rfl rfl (fun _ => ⟨rfl, rfl, rfl⟩)
    (fun _ active => by cases active) ?_
  intro row member chosen active operation
  obtain ⟨_, named⟩ := isSome_iff_exists.mp operation
  obtain ⟨saga, saga_found, live, saga_instance⟩ := managed.saga row member active _ named
  have current_id : current.id = trimSpace id :=
    get?_key (filter_eq_some_iff.mp found).1
  simp only [Bool.and_eq_true, beq_iff_eq] at chosen
  simp only [Operation.live, Bool.and_eq_true] at live
  refine absurd ?_ idle
  simp only [hasProvisioningOperationForInstance, List.any_eq_true, Bool.and_eq_true, beq_iff_eq]
  refine ⟨saga, get?_mem saga_found, live.1, ?_⟩
  rw [saga_instance, chosen.1, current_id, trimSpace_idem]

/-- An operation is activated: its account comes into the database. -/
theorem Managed.activate {accountId : Option String} {result : Option Account}
    (committed : db.activateDatabaseProvisioningOperation now later accountId expected =
      .ok (next, result)) : Managed next := by
  obtain ⟨rfl, -⟩ | ⟨old, account, between, active, -, -, pending, -, -, rewrites, -, found⟩ :=
    activate_inv committed
  · exact managed
  have idle : old.live = false := by
    rw [Operation.live, pending]
    exact Bool.and_false _
  have present : between.operations.get? old.id = some old := rewrites.operations.present
  obtain ⟨rfl, member, scope, -, operation⟩ | ⟨id, rfl, created⟩ := found
  · simp only [activeDatabaseAccountScope, Bool.and_eq_true] at scope
    obtain ⟨row, row_found, live, -⟩ := managed.saga account member scope.1 _ operation
    rw [present] at row_found
    cases row_found
    rw [idle] at live
    cases live
  · obtain ⟨operations, -, fresh, rows, free⟩ := createAccount_inv created
    obtain ⟨replaced, same_accounts, -⟩ := rewrites
    rw [operations] at replaced
    have members : ∀ row, row ∈ next.accounts.rows ↔ row = old.account id ∨
        row ∈ db.accounts.rows := by
      intro row
      rw [mem_iff_get?, same_accounts, rows, mem_iff_get?]
      split
      · rename_i same
        rw [← same, fresh]
        simp [eq_comm]
      · rename_i other
        refine ⟨.inr, Or.rec (fun equal => ?_) fun found => found⟩
        exact absurd (congrArg Account.id equal).symm other
    have elsewhere : ∀ row ∈ db.accounts.rows, row.active →
        row.provisioningOperationId ≠ some old.id :=
      fun row member row_active => (free row member row_active).2 rfl
    constructor
    · intro row member
      obtain rfl | member := (members row).mp member
      · simp [Operation.account]
      · exact managed.kind row member
    · intro row member row_active key named
      obtain rfl | member := (members row).mp member
      · cases named
        exact ⟨old.activated later, replaced.get?_new, by simp [Operation.live,
          Operation.activated, active, Stage.live], rfl⟩
      · obtain ⟨saga, found, live, instance_eq⟩ := managed.saga row member row_active key named
        have other : key ≠ old.id := by
          rintro rfl
          exact elsewhere row member row_active named
        exact ⟨saga, (replaced.get?_other other).trans found, live, instance_eq⟩
    · intro key row found live
      by_cases named : key = old.id
      · exact ⟨old.account id, (members _).mpr (.inl rfl), rfl, congrArg some named.symm⟩
      · rw [replaced.get?_other named] at found
        obtain ⟨account, member, account_active, operation⟩ := managed.present key row found live
        exact ⟨account, (members account).mpr (.inr member), account_active, operation⟩
    · intro first first_mem second second_mem first_active second_active key first_of second_of
      obtain rfl | first_mem := (members first).mp first_mem
      · obtain rfl | second_mem := (members second).mp second_mem
        · rfl
        · cases first_of
          exact absurd second_of (elsewhere second second_mem second_active)
      · obtain rfl | second_mem := (members second).mp second_mem
        · cases second_of
          exact absurd first_of (elsewhere first first_mem first_active)
        · exact managed.unique first first_mem second second_mem first_active second_active key
            first_of second_of

theorem Managed.complete {resources : Bool} {accountId : String} {result : Bool}
    (committed : db.completeDatabaseDeprovision now later resources expected accountId =
      .ok (next, result)) : Managed next := by
  obtain ⟨rfl, -⟩ | ⟨old, account, active, -, -, -, -, account_active, -, matching, operations,
    accounts, -, -⟩ := completeDeprovision_inv committed
  · exact managed
  simp only [managedAccountMatchesProvisioningOperation, Bool.and_eq_true, beq_iff_eq] at matching
  have operation : account.provisioningOperationId = some old.id := matching.1.1.1.2
  have account_mem : account ∈ db.accounts.rows := get?_mem accounts.present
  have members : ∀ row, row ∈ next.accounts.rows ↔
      row = account.deleted ∨ (row ∈ db.accounts.rows ∧ row.id ≠ account.id) := by
    intro row
    rw [mem_iff_get?, accounts.rows, mem_iff_get?]
    split
    · rename_i same
      simp [same, eq_comm]
    · rename_i other
      refine ⟨fun found => .inr ⟨found, other⟩, Or.rec (fun equal => ?_) And.left⟩
      exact absurd (congrArg Account.id equal) other
  have stays : ∀ row, row ∈ next.accounts.rows → row.active →
      row ∈ db.accounts.rows ∧ row.provisioningOperationId ≠ some old.id := by
    intro row member row_active
    obtain rfl | ⟨member, other⟩ := (members row).mp member
    · cases row_active
    · refine ⟨member, fun named => other ?_⟩
      rw [managed.unique row member account account_mem row_active account_active old.id named
        operation]
  constructor
  · intro row member
    obtain rfl | ⟨member, -⟩ := (members row).mp member
    · exact managed.kind account account_mem
    · exact managed.kind row member
  · intro row member row_active id named
    obtain ⟨member, elsewhere⟩ := stays row member row_active
    obtain ⟨saga, found, live, instance_eq⟩ := managed.saga row member row_active id named
    have other : id ≠ old.id := by
      rintro rfl
      exact elsewhere named
    exact ⟨saga, (operations.get?_other other).trans found, live, instance_eq⟩
  · intro id row found live
    by_cases named : id = old.id
    · rw [named, operations.get?_new] at found
      cases found
      cases live
    rw [operations.get?_other named] at found
    obtain ⟨other, member, other_active, of_id⟩ := managed.present id row found live
    refine ⟨other, (members other).mpr (.inr ⟨member, fun same => ?_⟩), other_active, of_id⟩
    obtain rfl := eq_of_key member account_mem same
    exact named (some.inj (of_id.symm.trans operation))
  · intro first first_mem second second_mem first_active second_active id first_of second_of
    exact managed.unique first (stays first first_mem first_active).1 second
      (stays second second_mem second_active).1 first_active second_active id first_of second_of

theorem Managed.create {input : OperationInput} {row : Operation} {window : LeaseWindow}
    (committed : createDatabaseProvisioningOperation proof db now later input =
      .ok (next, row, window)) : Managed next := by
  obtain ⟨_, -, -, rfl, inserted, -⟩ := create_inv committed
  obtain ⟨accounts, -, fresh, rows, -⟩ := insertOperation_inv inserted
  constructor
  · rw [accounts]
    exact managed.kind
  · rw [accounts]
    intro account member active id operation
    obtain ⟨saga, found, live, instance_eq⟩ := managed.saga account member active id operation
    refine ⟨saga, ?_, live, instance_eq⟩
    rw [rows, if_neg, found]
    rintro rfl
    rw [fresh] at found
    cases found
  · rw [accounts]
    intro id saga found live
    rw [rows] at found
    split at found
    · cases found
      cases live
    · exact managed.present id saga found live
  · rw [accounts]
    exact managed.unique

theorem Managed.same (operations : next.operations = db.operations)
    (accounts : next.accounts = db.accounts) : Managed next := by
  constructor
  · rw [accounts]
    exact managed.kind
  · rw [accounts, operations]
    exact managed.saga
  · rw [accounts, operations]
    exact managed.present
  · rw [accounts]
    exact managed.unique

/-- What the invariant says of the accounts of one operation. -/
theorem Managed.accounts_iff (id : String) :
    (db.managedAccounts id).length ≤ 1 ∧ ((db.managedAccounts id).length = 1 ↔
      ∃ row, db.operation? id = some row ∧ row.stage.live) := by
  have at_most : (db.managedAccounts id).length ≤ 1 := by
    refine length_filter_le_one fun first first_mem second second_mem first_met second_met => ?_
    simp only [Bool.and_eq_true, beq_iff_eq] at first_met second_met
    exact managed.unique first first_mem second second_mem first_met.1.1 second_met.1.1 id
      first_met.2 second_met.2
  refine ⟨at_most, fun one => ?_, fun ⟨row, found, live⟩ => ?_⟩
  · obtain ⟨account, only⟩ := List.length_eq_one_iff.mp one
    have member : account ∈ db.managedAccounts id := only ▸ .head _
    obtain ⟨stored, met⟩ := List.mem_filter.mp member
    simp only [Bool.and_eq_true, beq_iff_eq] at met
    obtain ⟨row, found, live, -⟩ := managed.saga account stored met.1.1 id met.2
    simp only [Operation.live, Bool.and_eq_true] at live
    exact ⟨row, by rw [operation?, found, filter_some, if_pos live.1], live.2⟩
  · obtain ⟨found, active⟩ := filter_eq_some_iff.mp found
    have row_live : row.live := by
      rw [Operation.live, active, live]
      rfl
    obtain ⟨account, stored, account_active, operation⟩ := managed.present id row found row_live
    have kind : account.managed := (managed.kind account stored).mpr (by rw [operation]; rfl)
    have member : account ∈ db.managedAccounts id := by
      refine List.mem_filter.mpr ⟨stored, ?_⟩
      rw [account_active, kind, operation]
      simp
    exact Nat.le_antisymm at_most (List.length_pos_of_mem member)

/-- Whatever commits, operations and managed accounts go together. -/
theorem Managed.commits (commits : Commits proof db next) : Managed next := by
  cases commits with
  | @transition now expected move result committed =>
    obtain ⟨rfl, -⟩ | ⟨old, _, -, -, valid, rewrites⟩ := transition_inv committed
    · exact managed
    · refine managed.rewrites rewrites ?_ rfl
      simp [Operation.live, Operation.transitioned, transition_live valid]
  | claim committed =>
    obtain ⟨rfl, -⟩ | ⟨old, expiry, window, -, -, -, -, -, rewrites, -⟩ := claim_inv committed
    · exact managed
    · exact managed.rewrites rewrites rfl rfl
  | renew committed =>
    obtain ⟨rfl, -⟩ | ⟨old, expiry, window, -, -, -, -, -, -, rewrites, -⟩ := renew_inv committed
    · exact managed
    · exact managed.rewrites rewrites rfl rfl
  | activate committed => exact managed.activate committed
  | beginDeprovision committed =>
    obtain ⟨rfl, -⟩ | ⟨old, expiry, _, -, -, stage, -, -, -, -, rewrites, -⟩ :=
      beginDeprovision_inv committed
    · exact managed
    · refine managed.rewrites rewrites ?_ rfl
      simp [Operation.live, Operation.requested, stage, Stage.live]
  | completeDeprovision committed => exact managed.complete committed
  | delete committed =>
    obtain rfl | ⟨old, -, -, stage, rewrites⟩ := delete_inv committed
    · exact managed
    · refine managed.rewrites rewrites ?_ rfl
      obtain stage | stage | stage := stage <;>
        simp [Operation.live, Operation.deleted, stage, Stage.live]
  | create committed => exact managed.create committed
  | addAccount committed => exact managed.addAccount committed
  | updateAccount committed => exact managed.updateAccount committed
  | deleteAccount committed => exact managed.deleteAccount committed
  | addInstance committed =>
    simp only [addDatabaseInstance] at committed
    split at committed
    · cases committed
      exact managed.same rfl rfl
    · cases committed
  | updateInstance committed =>
    simp only [updateDatabaseInstance] at committed
    split at committed
    · cases committed
    split at committed
    · cases committed
    cases committed
    exact managed.same rfl rfl
  | deleteInstance committed => exact managed.deleteInstance committed

end

end Database
end Jianmen.Provisioning
