import Jianmen.Provisioning.Store

/-!
# What the transactions do

A transaction on an operation that commits either changes nothing or replaces one row, which was
active, was the row the caller expected and had, or did not have, a valid lease.  These are the
rules by which everything about runs of transactions is proved; no proof about runs looks into a
transaction.
-/

namespace Jianmen.Provisioning

open Table Option

/-- The fence condition says that the row is the one expected. -/
theorem provisioningFenceCondition_iff {expected : Fence} {row : Operation} :
    provisioningFenceCondition expected row ↔ row.fence = expected := by
  simp only [provisioningFenceCondition, Bool.and_eq_true, beq_iff_eq, Operation.fence]
  constructor
  · simp_all
  · rintro rfl
    exact ⟨⟨⟨⟨⟨rfl, rfl⟩, rfl⟩, rfl⟩, rfl⟩, rfl⟩

/-- What a transaction that commits leaves and answers. -/
private theorem committed_pair {α β : Type} {db next : α} {answer result : β}
    (committed : (.ok (db, answer) : Except String (α × β)) = .ok (next, result)) :
    next = db ∧ result = answer := by
  cases committed
  exact ⟨rfl, rfl⟩

private theorem committed_triple {α β γ : Type} {db next : α} {answer result : β} {before after : γ}
    (committed : (.ok (db, answer, before) : Except String (α × β × γ)) =
      .ok (next, result, after)) :
    next = db ∧ result = answer := by
  cases committed
  exact ⟨rfl, rfl⟩

namespace Database

/-- The operations of one database are those of another with one row replaced. -/
structure Rewrites (db next : Database) (old new : Operation) : Prop where
  operations : Table.Replaces db.operations next.operations old new
  accounts : next.accounts = db.accounts
  instances : next.instances = db.instances

variable {db next : Database} {now later : Time} {expected : Fence}

/-- A conditional update of the expected row. -/
private theorem updateWhere_fenced {extra : Operation → Bool} (change : Operation → Operation)
    (keeps : ∀ row, (change row).id = row.id)
    (met : db.operations.count (fun row =>
      row.active && provisioningFenceCondition expected row && extra row) ≠ 0) :
    ∃ old, old.active ∧ old.fence = expected ∧ extra old ∧ Rewrites db { db with
        operations := db.operations.updateWhere (fun row =>
          row.active && provisioningFenceCondition expected row && extra row) change keeps }
        old (change old) := by
  have names : ∀ row : Operation, (row.active && provisioningFenceCondition expected row &&
      extra row) → row.id = expected.id := by
    intro row chosen
    simp only [Bool.and_eq_true] at chosen
    rw [← provisioningFenceCondition_iff.mp chosen.1.2]
    rfl
  obtain ⟨old, -, chosen, replaces⟩ := updateWhere_replaces change keeps names met
  simp only [Bool.and_eq_true] at chosen
  exact ⟨old, chosen.1.1, provisioningFenceCondition_iff.mp chosen.1.2, chosen.2, replaces, rfl,
    rfl⟩

theorem Rewrites.operation? {old new : Operation} (rewrites : Rewrites db next old new)
    (still : new.active) : next.operation? old.id = some new := by
  rw [Database.operation?, rewrites.operations.get?_new]
  simp [still]

/-- A transition that commits. -/
theorem transition_inv {transition : Transition} {updated : Bool}
    (committed : db.transitionDatabaseProvisioningOperation now expected transition =
      .ok (next, updated)) :
    (next = db ∧ updated = false) ∨
      ∃ old, old.active ∧ old.fence = expected ∧ validLeaseCondition now old ∧
        validProvisioningTransition old.stage transition.stage transition.cleanupStatus ∧
        Rewrites db next old (old.transitioned now transition) := by
  simp only [transitionDatabaseProvisioningOperation] at committed
  split at committed
  · cases committed
  rename_i valid
  split at committed
  · exact .inl (committed_pair committed)
  rename_i met
  obtain ⟨rfl, rfl⟩ := committed_pair committed
  obtain ⟨old, active, fenced, leased, rewrites⟩ :=
    updateWhere_fenced (·.transitioned now transition) (fun _ => rfl) met
  refine .inr ⟨old, active, fenced, leased, ?_, rewrites⟩
  rw [show old.stage = expected.stage from congrArg Fence.stage fenced]
  simp only [Bool.or_eq_true, Bool.not_eq_true', not_or, Bool.not_eq_false] at valid
  exact valid.1

variable {lease : Lease} {result : Option (Operation × LeaseWindow)}

/-- A lease that is claimed or renewed. -/
theorem updateProvisioningLease_inv {claim : Bool}
    (committed : db.updateProvisioningLease now later expected lease claim = .ok (next, result)) :
    (next = db ∧ result = none) ∨
      ∃ old expiry window, leaseExpiryExpression now lease.duration = .ok expiry ∧
        old.active ∧ old.fence = expected ∧ leaseCondition claim now old ∧
        leaseWindow later (old.leased now lease expiry) lease.duration = .ok window ∧
        Rewrites db next old (old.leased now lease expiry) ∧
        result = some (old.leased now lease expiry, window) := by
  simp only [updateProvisioningLease, bind, Except.bind] at committed
  split at committed
  · cases committed
  rename_i expiry expires
  split at committed
  · exact .inl (committed_pair committed)
  rename_i met
  obtain ⟨old, active, fenced, free, rewrites⟩ :=
    updateWhere_fenced (·.leased now lease expiry) (fun _ => rfl) met
  have named : expected.id = old.id := (congrArg Fence.id fenced).symm
  rw [named, rewrites.operation? active] at committed
  simp only at committed
  split at committed
  · cases committed
  · rename_i window left
    obtain ⟨rfl, rfl⟩ := committed_pair committed
    exact .inr ⟨old, expiry, window, expires, active, fenced, free, left, rewrites, rfl⟩

theorem claim_inv (committed : db.claimDatabaseProvisioningOperation now later expected lease =
      .ok (next, result)) :
    (next = db ∧ result = none) ∨
      ∃ old expiry window, leaseExpiryExpression now lease.duration = .ok expiry ∧
        old.active ∧ old.fence = expected ∧ expiredOrUnsetLeaseCondition now old ∧
        leaseWindow later (old.leased now lease.trimmed expiry) lease.duration = .ok window ∧
        Rewrites db next old (old.leased now lease.trimmed expiry) ∧
        result = some (old.leased now lease.trimmed expiry, window) := by
  simp only [claimDatabaseProvisioningOperation] at committed
  split at committed
  · cases committed
  · exact updateProvisioningLease_inv committed

theorem renew_inv (committed : db.renewDatabaseProvisioningOperation now later expected lease =
      .ok (next, result)) :
    (next = db ∧ result = none) ∨
      ∃ old expiry window, leaseExpiryExpression now lease.duration = .ok expiry ∧
        old.active ∧ old.fence = expected ∧ validLeaseCondition now old ∧
        old.leaseToken = lease.trimmed.token ∧
        leaseWindow later (old.leased now lease.trimmed expiry) lease.duration = .ok window ∧
        Rewrites db next old (old.leased now lease.trimmed expiry) ∧
        result = some (old.leased now lease.trimmed expiry, window) := by
  simp only [renewDatabaseProvisioningOperation] at committed
  split at committed
  · cases committed
  rename_i held
  obtain unchanged | ⟨old, expiry, window, expires, active, fenced, valid, left, rewrites,
    result_eq⟩ := updateProvisioningLease_inv committed
  · exact .inl unchanged
  · refine .inr ⟨old, expiry, window, expires, active, fenced, valid, ?_, left, rewrites, result_eq⟩
    rw [show old.leaseToken = expected.leaseToken from congrArg Fence.leaseToken fenced]
    push Not at held
    exact held.2.2.2.2

/-- A deletion of an operation for which nothing was made upstream. -/
theorem delete_inv (committed : (db.deleteDatabaseProvisioningOperation now expected).1 = next) :
    next = db ∨ ∃ old, old.active ∧ old.fence = expected ∧
        (old.stage = .reserved ∨ old.stage = .notCreated ∨ old.stage = .cleanupInProgress) ∧
        Rewrites db next old (old.deleted now) := by
  have deletion : (expected.stage = .reserved ∨ expected.stage = .notCreated ∨
      expected.stage = .cleanupInProgress) → { db with
        operations := db.operations.updateWhere (fun row => row.active &&
          provisioningFenceCondition expected row && validLeaseCondition now row)
          (·.deleted now) fun _ => rfl } = next →
      next = db ∨ ∃ old, old.active ∧ old.fence = expected ∧
        (old.stage = .reserved ∨ old.stage = .notCreated ∨ old.stage = .cleanupInProgress) ∧
        Rewrites db next old (old.deleted now) := by
    rintro stage rfl
    by_cases none : db.operations.count (fun row => row.active &&
        provisioningFenceCondition expected row && validLeaseCondition now row) = 0
    · exact .inl (congrArg (fun operations => { db with operations := operations })
        (updateWhere_of_count_eq_zero none))
    · obtain ⟨old, active, fenced, -, rewrites⟩ :=
        updateWhere_fenced (·.deleted now) (fun _ => rfl) none
      rw [show expected.stage = old.stage from (congrArg Fence.stage fenced).symm] at stage
      exact .inr ⟨old, active, fenced, stage, rewrites⟩
  simp only [deleteDatabaseProvisioningOperation] at committed
  split at committed
  · next stage => exact deletion (.inl stage) committed
  · next stage => exact deletion (.inr (.inl stage)) committed
  · next stage => exact deletion (.inr (.inr stage)) committed
  · exact .inl committed.symm

/-- An operation that is inserted is new, and no active operation is like it. -/
theorem insertOperation_inv {operation : Operation}
    (committed : db.insertOperation operation = some next) :
    next.accounts = db.accounts ∧ next.instances = db.instances ∧
      db.operations.get? operation.id = none ∧
      (∀ id, next.operations.get? id =
        if operation.id = id then some operation else db.operations.get? id) ∧
      ∀ row ∈ db.operations.rows, row.active →
        (operation.idempotencyKey.isSome → row.actorId = operation.actorId →
          row.idempotencyKey ≠ operation.idempotencyKey) ∧ row.username ≠ operation.username := by
  simp only [insertOperation] at committed
  split at committed
  · cases committed
  rename_i free
  obtain ⟨operations, inserted, rfl⟩ := map_eq_some_iff.mp committed
  refine ⟨rfl, rfl, insert?_fresh inserted, get?_insert? inserted, ?_⟩
  intro row member active
  simp only [List.any_eq_true, not_exists, not_and, Bool.and_eq_true, Bool.or_eq_true,
    beq_iff_eq, not_or, and_imp] at free
  exact free row member active

/-- The operations that were there stay. -/
theorem insertOperation_kept {operation current : Operation} {id : String}
    (committed : db.insertOperation operation = some next)
    (found : db.operations.get? id = some current) : next.operations.get? id = some current := by
  obtain ⟨-, -, fresh, rows, -⟩ := insertOperation_inv committed
  rw [rows, if_neg, found]
  rintro rfl
  rw [fresh] at found
  cases found

/-- A creation that commits inserts the row of its input, whose lease is still valid. -/
theorem create_inv {proof : Instance → String} {input : OperationInput} {row : Operation}
    {window : LeaseWindow}
    (committed : createDatabaseProvisioningOperation proof db now later input =
      .ok (next, row, window)) :
    ∃ expiry, input.valid ∧ leaseExpiryExpression now input.lease.duration = .ok expiry ∧
      row = input.row now expiry ∧ db.insertOperation row = some next ∧
      leaseWindow later row input.lease.duration = .ok window := by
  simp only [createDatabaseProvisioningOperation, bind, Except.bind] at committed
  split at committed
  · cases committed
  rename_i valid
  split at committed
  · cases committed
  rename_i expiry expires
  split at committed
  · split at committed
    · cases committed
    split at committed
    · cases committed
    split at committed
    · cases committed
    split at committed
    · cases committed
    rename_i inserted
    split at committed
    · cases committed
    rename_i remaining
    cases committed
    exact ⟨expiry, by simpa using valid, expires, rfl, inserted, remaining⟩
  · cases committed

/-! ## Activation and removal -/

theorem activateOperation_inv (committed : db.activateOperation now expected = some next) :
    ∃ old, old.active ∧ old.fence = expected ∧ validLeaseCondition now old ∧
      Rewrites db next old (old.activated now) := by
  simp only [activateOperation] at committed
  split at committed
  · rename_i once
    cases committed
    refine updateWhere_fenced (·.activated now) (fun _ => rfl) ?_
    rw [once]
    exact Nat.one_ne_zero
  · cases committed

/-- An account that is inserted is new, and no active account is like it. -/
theorem createAccount_inv {account : Account} (committed : db.createAccount account = some next) :
    next.operations = db.operations ∧ next.instances = db.instances ∧
      db.accounts.get? account.id = none ∧
      (∀ id, next.accounts.get? id =
        if account.id = id then some account else db.accounts.get? id) ∧
      ∀ row ∈ db.accounts.rows, row.active →
        (row.instanceId = account.instanceId → row.username ≠ account.username) ∧
        (account.provisioningOperationId.isSome →
          row.provisioningOperationId ≠ account.provisioningOperationId) := by
  simp only [createAccount] at committed
  split at committed
  · cases committed
  rename_i free
  obtain ⟨accounts, inserted, rfl⟩ := map_eq_some_iff.mp committed
  refine ⟨rfl, rfl, insert?_fresh inserted, get?_insert? inserted, ?_⟩
  intro row member active
  simp only [List.any_eq_true, not_exists, not_and, Bool.and_eq_true, Bool.or_eq_true,
    beq_iff_eq, not_or] at free
  exact free row member active

/-- The row a transaction looks up first is the row it updates in the end. -/
private theorem same_row {first second : Operation} (found : (db.operations.rows.find? fun row =>
      row.active && provisioningFenceCondition expected row && validLeaseCondition now row) =
        some first)
    (present : db.operations.get? second.id = some second) (fenced : second.fence = expected) :
    first = second := by
  have chosen := List.find?_some found
  simp only [Bool.and_eq_true] at chosen
  have first_fenced := provisioningFenceCondition_iff.mp chosen.1.2
  refine eq_of_key (List.mem_of_find?_eq_some found) (get?_mem present) ?_
  exact congrArg Fence.id (first_fenced.trans fenced.symm)

/-- An activation that commits: the account was there already, or is inserted. -/
theorem activate_inv {accountId : Option String} {result : Option Account}
    (committed : db.activateDatabaseProvisioningOperation now later accountId expected =
      .ok (next, result)) :
    (next = db ∧ result = none) ∨ ∃ old account between, old.active ∧ old.fence = expected ∧
        validLeaseCondition later old ∧ old.stage = .activationPending ∧
        old.cleanupStatus = .none ∧ validProvisioningIdentity old.id old.username ∧
        Rewrites between next old (old.activated later) ∧ result = some account ∧
        ((between = db ∧ account ∈ db.accounts.rows ∧
            db.activeDatabaseAccountScope account ∧ account.managed ∧
            account.provisioningOperationId = some old.id) ∨
          ∃ id, account = old.account id ∧ db.createAccount account = some between) := by
  simp only [activateDatabaseProvisioningOperation] at committed
  split at committed
  · exact .inl (committed_pair committed)
  rename_i pending
  push Not at pending
  split at committed
  · exact .inl (committed_pair committed)
  rename_i operation found
  split at committed
  · cases committed
  rename_i identity
  simp only [Bool.not_eq_true', Bool.not_eq_false] at identity
  split at committed
  · rename_i account known
    have chosen := List.find?_some known
    simp only [Bool.and_eq_true] at chosen
    split at committed
    · cases committed
    rename_i usable
    simp only [Bool.not_eq_true', not_or, not_not, Bool.not_eq_false] at usable
    split at committed
    · rename_i activated updated
      obtain ⟨rfl, rfl⟩ := committed_pair committed
      obtain ⟨old, active, fenced, leased, rewrites⟩ := activateOperation_inv updated
      obtain rfl := same_row found rewrites.operations.present fenced
      subst fenced
      exact .inr ⟨operation, account, db, active, rfl, leased, pending.1, pending.2, identity,
        rewrites, rfl, .inl ⟨rfl, List.mem_of_find?_eq_some known, chosen.1, usable.2.1,
          usable.2.2⟩⟩
    · exact .inl (committed_pair committed)
  · split at committed
    · cases committed
    rename_i id
    split at committed
    · cases committed
    rename_i created inserted
    split at committed
    · rename_i activated updated
      obtain ⟨rfl, rfl⟩ := committed_pair committed
      obtain ⟨old, active, fenced, leased, rewrites⟩ := activateOperation_inv updated
      have present := rewrites.operations.present
      rw [(createAccount_inv inserted).1] at present
      obtain rfl := same_row found present fenced
      subst fenced
      exact .inr ⟨operation, _, created, active, rfl, leased, pending.1, pending.2, identity,
        rewrites, rfl, .inr ⟨id, rfl, inserted⟩⟩
    · exact .inl (committed_pair committed)

/-- The beginning of a removal that commits. -/
theorem beginDeprovision_inv {accountId : String} {result : Option Operation} {managed : Bool}
    (committed : db.beginDatabaseDeprovision now accountId lease = .ok (next, result, managed)) :
    (next = db ∧ result = none) ∨
      ∃ old expiry account, leaseExpiryExpression now lease.duration = .ok expiry ∧
        old.active ∧ old.stage = .activeManaged ∧ old.cleanupStatus = .none ∧
        expiredOrUnsetLeaseCondition now old ∧
        db.accounts.get? (trimSpace accountId) = some account ∧
        managedAccountMatchesProvisioningOperation account old ∧
        Rewrites db next old (old.requested now lease.trimmed expiry) ∧
        result = some (old.requested now lease.trimmed expiry) := by
  simp only [beginDatabaseDeprovision, bind, Except.bind] at committed
  split at committed
  · cases committed
  split at committed
  · cases committed
  rename_i expiry expires
  split at committed
  · exact .inl (committed_triple committed)
  rename_i account known
  split at committed
  · exact .inl (committed_triple committed)
  split at committed
  · exact .inl (committed_triple committed)
  split at committed
  · cases committed
  rename_i current found
  split at committed
  · cases committed
  rename_i idle
  split at committed
  · cases committed
  rename_i matching
  split at committed
  · exact .inl (committed_triple committed)
  rename_i met
  obtain ⟨old, active, fenced, free, rewrites⟩ :=
    updateWhere_fenced (·.requested now lease.trimmed expiry) (fun _ => rfl) met
  obtain ⟨rfl, rfl⟩ := committed_triple committed
  have current_mem : current ∈ db.operations.rows :=
    get?_mem (filter_eq_some_iff.mp (filter_eq_some_iff.mp found).1).1
  obtain rfl : old = current :=
    eq_of_key (get?_mem rewrites.operations.present) current_mem (congrArg Fence.id fenced)
  simp only [Bool.or_eq_true, bne_iff_ne, not_or, not_not] at idle
  refine .inr ⟨old, expiry, account, expires, active, idle.1.2, idle.2, free,
    (filter_eq_some_iff.mp known).1, by simpa using matching, rewrites, ?_⟩
  exact rewrites.operation? active

/-- The completion of a removal that commits takes the operation and its account away. -/
theorem completeDeprovision_inv {resources : Bool} {accountId : String} {result : Bool}
    (committed : db.completeDatabaseDeprovision now later resources expected accountId =
      .ok (next, result)) :
    (next = db ∧ result = false) ∨ ∃ old account, old.active ∧ old.fence = expected ∧
        validLeaseCondition later old ∧ old.stage = .dropStarted ∧
        old.cleanupStatus = .inProgress ∧ account.active ∧
        account.instanceId = old.instanceId ∧
        managedAccountMatchesProvisioningOperation account old ∧
        Table.Replaces db.operations next.operations old (old.deleted later) ∧
        Table.Replaces db.accounts next.accounts account account.deleted ∧
        next.instances = db.instances ∧ result := by
  simp only [completeDatabaseDeprovision] at committed
  split at committed
  · exact .inl (committed_pair committed)
  rename_i dropping
  push Not at dropping
  split at committed
  · exact .inl (committed_pair committed)
  rename_i operation found
  split at committed
  · cases committed
  split at committed
  · cases committed
  rename_i account known
  split at committed
  · cases committed
  rename_i matching
  split at committed
  · rename_i once
    obtain ⟨rfl, rfl⟩ := committed_pair committed
    obtain ⟨old, active, fenced, leased, rewrites⟩ :=
      updateWhere_fenced (·.deleted later) (fun _ => rfl) (once ▸ Nat.one_ne_zero)
    obtain rfl := same_row found rewrites.operations.present fenced
    subst fenced
    obtain ⟨present, chosen⟩ := filter_eq_some_iff.mp known
    simp only [activeDatabaseAccountScope, Bool.and_eq_true, beq_iff_eq] at chosen
    simp only [Bool.or_eq_true, Bool.not_eq_true', not_or, Bool.not_eq_false] at matching
    have names : ∀ row : Account, (row.id == trimSpace accountId && row.active) →
        row.id = trimSpace accountId := by
      intro row met
      simp only [Bool.and_eq_true, beq_iff_eq] at met
      exact met.1
    have met : (account.id == trimSpace accountId && account.active) := by
      rw [get?_key present, chosen.1.1, beq_self_eq_true, Bool.and_self]
    exact .inr ⟨operation, account, active, rfl, leased, dropping.1, dropping.2, chosen.1.1,
      chosen.2, matching.1, rewrites.operations,
      updateWhere_replaces_of_get? Account.deleted (fun _ => rfl) names present met, rfl,
      rfl⟩
  · exact .inl (committed_pair committed)

end Database
end Jianmen.Provisioning
