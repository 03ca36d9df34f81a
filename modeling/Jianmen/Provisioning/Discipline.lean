import Jianmen.Provisioning.Upstream

/-!
# The discipline of the programs

Which calls a worker may make where it stands: it goes on from rows it has written or read back,
asks for an account once, and, where all calls are steady, asks while nobody can take its operation
and gives an operation up only when there is no account.  Every program of the service keeps to
this.
-/

namespace Jianmen.Provisioning

/-- Where a worker stands, the rows it knows, the operations it knows to be past the point where
their account is asked for, the rows it has found under idempotency keys, and whether its last call
was to insert an operation and came to nothing. -/
structure Stance where
  standing : Standing := .free
  rows : List Operation := []
  past : List String := []
  found : List Operation := []
  lost : Bool := false

namespace Stance

structure Holds (steady : Bool) (stance : Stance) (worker : ℕ) (w : World) : Prop where
  standing : stance.standing.Holds steady worker w
  rows : ∀ row ∈ stance.rows, w.Knows steady worker row
  past : ∀ id ∈ stance.past, w.Past id
  written : ∀ row ∈ stance.found, ∃ writer, (writer, row) ∈ w.written
  found : stance.found = w.found worker
  lost : stance.lost = w.lost worker

/-- The calls a stance permits. -/
def permits (steady : Bool) (stance : Stance) : Action → Prop
  | .transition expected move => stance.standing.waits = false ∧ ∃ row ∈ stance.rows,
      expected = row.fence ∧ (steady = true → move.stage = .notCreated →
        stance.standing = .absent row ∨ row.stage = .reserved)
  | .operation id => stance.standing.waits = false ∧
      (id ∈ stance.past ∨ ∃ mine, stance.standing = .started mine ∧ mine.id = id)
  | .renew expected _ | .activate expected => stance.standing.waits = false ∧
      ∃ row ∈ stance.rows, expected = row.fence
  | .completeDeprovision expected _ => ∃ row ∈ stance.rows, stance.standing = .absent row ∧
      expected = row.fence
  | .createAccount operation deadline => stance.standing = .holder operation ∧
      (steady = true → operation.stage = .createStarted) ∧
      ∃ expiry, operation.leaseExpiresAt = some expiry ∧ deadline < expiry
  | .createResult operation => stance.standing = .sent operation
  | .dropAccount operation => stance.standing.waits = false ∧ operation ∈ stance.rows ∧
      operation.stage.past = true
  | _ => stance.standing.waits = false

/-- What is known of a reply. -/
def possible (steady : Bool) (stance : Stance) : (action : Action) → Reply action → Prop
  | .lookup actorId key, reply => ∀ row, reply = some (some row) →
      row.actorId = trimSpace actorId ∧ row.idempotencyKey = some (trimSpace key)
  | .create input, reply => ∀ row, reply = some row → ∃ now expiry, row = input.row now expiry
  | .operation id, reply => ∀ row, reply = some row → row.id = id ∧
      (∀ old ∈ stance.rows, old.id = id → row.origin = old.origin) ∧
      (id ∈ stance.past → row.stage.past = true) ∧
      (steady = true → ∀ mine, stance.standing = .started mine → mine.id = id →
        row.stage = .createStarted)
  | .renew expected _, reply => ∀ started row window, reply = some (started, row, window) →
      row.stage = expected.stage ∧ row.id = expected.id ∧
      (∀ old ∈ stance.rows, old.fence = expected → row.origin = old.origin) ∧
      ∃ expiry, row.leaseExpiresAt = some expiry ∧ started + window.remaining ≤ expiry
  | _, _ => True

/-- A row has been written or read back. -/
def write (stance : Stance) (row : Operation) (standing : Standing) : Stance :=
  { stance with standing := standing, rows := row :: stance.rows }

/-- A row may have been written. -/
def weaken (stance : Stance) : Stance :=
  { stance with standing := stance.standing.weaken }

/-- The row of an operation has been moved to a stage. -/
def moved (stance : Stance) (id : String) (stage : Stage) : Stance :=
  { stance with
    standing := stance.standing.moved id stage
    past := if stage.past then id :: stance.past else stance.past }

/-- Where a reply leads with the rows of operations. -/
def step (stance : Stance) : (action : Action) → Reply action → Stance
  | .create _, reply =>
    match (reply : Option Operation) with
    | some row => stance.write row (.creator row)
    | none => stance.weaken
  | .transition expected move, reply =>
    match (reply : Bool) with
    | true => stance.moved expected.id move.stage
    | false => stance.weaken
  | .operation _, reply =>
    match (reply : Option Operation) with
    | some row => stance.write row (stance.standing.wrote row)
    | none => stance
  | .claim .., reply =>
    match (reply : Option Operation) with
    | some row => stance.write row (stance.standing.wrote row)
    | none => stance.weaken
  | .renew .., reply =>
    match (reply : Option (Time × Operation × LeaseWindow)) with
    | some (_, row, _) => stance.write row (stance.standing.renewed row)
    | none => stance.weaken
  | .activate _, _ | .completeDeprovision .., _ => stance.weaken
  | .beginDeprovision .., reply =>
    match (reply : Option (Option Operation × Bool)) with
    | some (some row, _) => stance.write row (stance.standing.wrote row)
    | _ => stance.weaken
  | .createAccount operation _, _ => { stance with standing := .sent operation }
  | .createResult operation, reply =>
    match (reply : Disposition × Bool) with
    | (.notSent, _) | (.notCreated, _) => { stance with standing := .absent operation }
    | _ => { stance with standing := .free }
  | .dropAccount operation, reply =>
    match (reply : Bool) with
    | true => { stance with standing := .absent operation }
    | false => stance
  | _, _ => stance

/-- Where a reply leads. -/
def after (stance : Stance) (action : Action) (reply : Reply action) : Stance :=
  { stance.step action reply with
    found := (action.finds reply).toList ++ stance.found
    lost := action.fails reply }

end Stance

def discipline (steady : Bool) : Discipline Reply Stance where
  permits := Stance.permits steady
  possible := Stance.possible steady
  after := Stance.after

variable {steady : Bool} {codec : Codec} {w next : World} {worker : ℕ} {standing : Standing}
  {stance : Stance}

/-! ## Where standings lead -/

theorem Standing.Holds.grounded (holds : standing.Holds steady worker w)
    (idle : standing.waits = false) : w.Grounded worker := by
  cases standing with
  | free => exact holds
  | creator | started | holder | absent => exact holds.1
  | sent => cases idle

variable {old new : Operation}

/-- A worker that waits for nothing keeps what it knows when it writes a row. -/
theorem Standing.Holds.weaken_write (holds : standing.Holds steady worker w)
    (idle : standing.waits = false) (writes : w.Writes steady next worker old new) :
    standing.weaken.Holds steady worker next := by
  have past : ∀ id, w.Past id → next.Past id :=
    fun id past => past.replaces writes.operations writes.past
  rw [writes.step] at past ⊢
  cases standing with
  | free => exact holds
  | creator row => exact holds
  | started row => exact ⟨holds.1, holds.2.1⟩
  | holder row => exact ⟨holds.1, holds.2.2.1⟩
  | sent row => cases idle
  | absent row =>
    obtain ⟨grounded, ⟨writer, written⟩, gone⟩ := holds
    refine ⟨grounded, ⟨writer, .tail _ written⟩, fun steadily => ?_⟩
    obtain ⟨missing, flights, settled⟩ := gone steadily
    exact ⟨missing, flights, settled.imp id (past row.id)⟩

theorem Standing.Holds.weaken (holds : standing.Holds steady worker w) :
    standing.weaken.Holds steady worker w := by
  cases standing with
  | started => exact ⟨holds.1, holds.2.1⟩
  | holder => exact ⟨holds.1, holds.2.2.1⟩
  | free | creator | sent | absent => exact holds

/-- Who has made an operation goes on with any row of it. -/
theorem Standing.Holds.wrote {row : Operation} (holds : standing.weaken.Holds steady worker w) :
    (standing.wrote row).Holds steady worker w := by
  simp only [Standing.wrote]
  split
  · rename_i stands
    rw [stands] at holds
    split
    · rename_i same
      refine ⟨holds.1, ?_⟩
      rw [World.Unasked, same]
      exact holds.2
    · exact holds
  · exact holds

/-- Who has made an operation and moves its row to `create_started` is about to read it back. -/
theorem Standing.Holds.moved (holds : standing.Holds steady worker w)
    (idle : standing.waits = false) (writes : w.Writes steady next worker old new) :
    (standing.moved new.id new.stage).Holds steady worker next := by
  have weaker := holds.weaken_write idle writes
  simp only [Standing.moved]
  split
  · rename_i stands
    rw [stands] at weaker
    split
    · rename_i same
      refine ⟨weaker.1, weaker.2, new, ?_, same.2⟩
      rw [same.1, writes.step]
      exact last_write ..
    · exact weaker
  · exact weaker

theorem Standing.Holds.renewed (holds : standing.Holds steady worker w)
    (idle : standing.waits = false) (writes : w.Writes steady next worker old new) :
    (standing.renewed new).Holds steady worker next := by
  have wrote : (standing.wrote new).Holds steady worker next :=
    (holds.weaken_write idle writes).wrote
  simp only [Standing.renewed]
  split
  · rename_i stands
    rw [stands] at wrote
    split
    · rename_i same
      obtain rfl := same
      refine ⟨wrote.1, ?_, wrote.2, fun _ _ expiry _ _ => ⟨?_, writes.active⟩⟩
      · rw [writes.step]
        exact .head _
      · rw [writes.id_eq]
        exact writes.get?_new
    · exact wrote
  · exact wrote

/-! ## What calls write -/

variable {row : Operation} {now later : Time} {expected : Fence} {db : Database} {lease : Lease}
  {window : LeaseWindow} {accountId : String} {other : ℕ}

/-- The row a fence names is the row that was written. -/
theorem Orderly.current_eq {writer : ℕ} (orderly : Orderly steady w)
    (written : (writer, row) ∈ w.written) (fenced : old.fence = row.fence)
    (present : w.db.operations.get? old.id = some old) (active : old.active) : old = row := by
  obtain ⟨current, found, -, -, -, exact_row⟩ := orderly.current _ written
  have same : row.id = old.id := (congrArg Fence.id fenced).symm
  rw [same, present] at found
  cases found
  exact exact_row (congrArg Fence.revision fenced).symm active

/-- An operation with an account is in a stage for it. -/
theorem Orderly.upstream_stage (orderly : Orderly steady w) (steadily : steady = true)
    (present : w.db.operations.get? old.id = some old) (member : old.identity ∈ w.upstream) :
    old.stage.upstream := by
  obtain ⟨row, row_mem, same, living, -⟩ := orderly.upstream _ member
  have found := Table.get?_of_mem row_mem
  have ids := (orderly.named _ row found).id_eq (orderly.named _ old present) same
  rw [ids, present] at found
  exact Option.some.inj found ▸ (living steadily).2

open Database Option

theorem writes_transition (orderly : Orderly steady w) (holds : stance.Holds steady worker w)
    {move : Transition} (permitted : stance.permits steady (.transition expected move))
    (committed : w.db.transitionDatabaseProvisioningOperation now expected move = .ok (db, true))
    (found : db.operation? expected.id = some row) :
    row.id = expected.id ∧ row.stage = move.stage ∧
      ∃ old, w.Writes steady (w.write worker row db) worker old row := by
  obtain ⟨_, mine, member, rfl, giving_up⟩ := permitted
  have knows := holds.rows mine member
  obtain ⟨writer, written, -⟩ := knows
  obtain ⟨-, missed⟩ | ⟨old, active, fenced, -, valid, rewrites⟩ := transition_inv committed
  · cases missed
  have present := rewrites.operations.present
  obtain rfl : old = mine := orderly.current_eq written fenced present active
  have result : db.operation? old.id = some (old.transitioned now move) :=
    rewrites.operation? active
  cases result.symm.trans found
  refine ⟨rfl, rfl, old, ⟨rfl, rewrites.operations, .inl ⟨old, holds.rows old member, rfl⟩, active,
    active, rfl, rfl, transition_past valid, fun steadily there => ?_⟩⟩
  by_cases given_up : move.stage = .notCreated
  · obtain absent | reserved := giving_up steadily given_up
    · have held := holds.standing
      rw [absent] at held
      exact absurd there (held.2.2 steadily).missing
    · have stage := orderly.upstream_stage steadily present there
      rw [reserved] at stage
      cases stage
  · exact transition_upstream valid given_up

theorem writes_claim (worker : ℕ) (orderly : Orderly steady w) (intime : now ≤ w.clock)
    (committed : w.db.claimDatabaseProvisioningOperation now later expected lease =
      .ok (db, some (row, window))) :
    ∃ old, w.Writes steady (w.write worker row db) worker old row := by
  obtain ⟨-, missing⟩ | ⟨old, _, _, -, active, fenced, expired, -, rewrites, result⟩ :=
    claim_inv committed
  · cases missing
  obtain rfl := congrArg Prod.fst (some.inj result)
  exact ⟨old, ⟨rfl, rewrites.operations, .inr (.inl ⟨now, intime, expired⟩), active,
    active, rfl, rfl, fun past => past,
    fun steadily => orderly.upstream_stage steadily rewrites.operations.present⟩⟩

theorem writes_renew (orderly : Orderly steady w) (holds : stance.Holds steady worker w)
    (permitted : stance.permits steady (.renew expected lease))
    (committed : w.db.renewDatabaseProvisioningOperation now later expected lease =
      .ok (db, some (row, window))) :
    ∃ old, old.fence = expected ∧ row.stage = old.stage ∧
      (∃ expiry, row.leaseExpiresAt = some expiry ∧ later + window.remaining ≤ expiry) ∧
      w.Writes steady (w.write worker row db) worker old row := by
  obtain ⟨_, mine, member, rfl⟩ := permitted
  have knows := holds.rows mine member
  obtain ⟨writer, written, -⟩ := knows
  obtain ⟨-, missing⟩ | ⟨old, expiry, remaining, -, active, fenced, -, -, left, rewrites, result⟩ :=
    renew_inv committed
  · cases missing
  cases result
  have present := rewrites.operations.present
  obtain rfl : old = mine := orderly.current_eq written fenced present active
  refine ⟨old, rfl, rfl, ⟨expiry, rfl, ?_⟩, ⟨rfl, rewrites.operations,
    .inl ⟨old, holds.rows old member, rfl⟩, active, active, rfl, rfl, fun past => past,
    fun steadily => orderly.upstream_stage steadily present⟩⟩
  simp only [leaseWindow, Operation.leased] at left
  split at left
  · rename_i open_lease
    cases left
    have bound := Nat.min_le_left (expiry - later) lease.duration
    exact Nat.le_trans (Nat.add_le_add_left bound later)
      (Nat.le_of_eq (Nat.add_sub_of_le (Nat.le_of_lt open_lease)))
  · cases left

theorem writes_activate (orderly : Orderly steady w) (holds : stance.Holds steady worker w)
    {accountId : Option String} {account : Account}
    (permitted : stance.permits steady (.activate expected))
    (committed : w.db.activateDatabaseProvisioningOperation now later accountId expected =
      .ok (db, some account)) (found : db.operation? expected.id = some row) :
    ∃ old, w.Writes steady (w.write worker row db) worker old row := by
  obtain ⟨_, mine, member, rfl⟩ := permitted
  have knows := holds.rows mine member
  obtain ⟨writer, written, -⟩ := knows
  obtain ⟨-, missing⟩ | ⟨old, inserted, between, active, fenced, -, pending, -, -, rewrites, -,
    origin⟩ := activate_inv committed
  · cases missing
  have same : between.operations = w.db.operations := by
    obtain ⟨rfl, -⟩ | ⟨id, -, created⟩ := origin
    · rfl
    · exact (createAccount_inv created).1
  have operations : Table.Replaces w.db.operations db.operations old (old.activated later) :=
    same ▸ rewrites.operations
  obtain rfl : old = mine := orderly.current_eq written fenced operations.present active
  have result : db.operation? old.id = some (old.activated later) := rewrites.operation? active
  cases result.symm.trans found
  exact ⟨old, ⟨rfl, operations, .inl ⟨old, holds.rows old member, rfl⟩, active, active, rfl, rfl,
    fun _ => rfl, fun _ _ => rfl⟩⟩

theorem writes_beginDeprovision (steady : Bool) (worker : ℕ) {managed : Bool}
    (committed : w.db.beginDatabaseDeprovision now accountId lease = .ok (db, some row, managed)) :
    ∃ old, w.Writes steady (w.write worker row db) worker old row := by
  obtain ⟨-, missing⟩ | ⟨old, _, _, -, active, idle, -, -, -, -, rewrites, result⟩ :=
    beginDeprovision_inv committed
  · cases missing
  cases result
  exact ⟨old, ⟨rfl, rewrites.operations, .inr (.inr idle), active, active, rfl, rfl,
    fun _ => rfl, fun _ _ => rfl⟩⟩

theorem deletes_completeDeprovision (orderly : Orderly steady w)
    (holds : stance.Holds steady worker w) {resources : Bool}
    (permitted : stance.permits steady (.completeDeprovision expected accountId))
    (committed : w.db.completeDatabaseDeprovision now later resources expected accountId =
      .ok (db, true)) : ∃ old new, w.Deletes steady { w with db := db } worker old new := by
  obtain ⟨mine, member, absent, rfl⟩ := permitted
  have held := holds.standing
  rw [absent] at held
  obtain ⟨_, ⟨writer, written⟩, gone⟩ := held
  obtain ⟨-, failed⟩ | ⟨old, _, active, fenced, -, -, -, -, -, -, operations, -⟩ :=
    completeDeprovision_inv committed
  · cases failed
  obtain rfl : old = mine := orderly.current_eq written fenced operations.present active
  exact ⟨old, _, ⟨rfl, operations, .inl ⟨old, holds.rows old member, rfl⟩, rfl, rfl, rfl, rfl,
    fun steadily => (gone steadily).missing⟩⟩

/-- The token in the name of a new operation. -/
theorem OperationInput.named {input : OperationInput} (valid : input.valid)
    (now expiry : Time) : (input.row now expiry).Named := by
  simp only [OperationInput.valid, validProvisioningIdentity, trimSpace_idem, Bool.and_eq_true,
    beq_iff_eq] at valid
  obtain ⟨⟨⟨start, -⟩, username⟩, -⟩ := valid.1.1.1.1.1.1.1.1.1.1.1
  refine ⟨(trimSpace input.id).toList.drop 4, ?_, username⟩
  rw [← start]
  exact (List.take_append_drop 4 _).symm

/-! ## Soundness -/

/-- All a permitted call can do. -/
inductive Effect (steady : Bool) (w : World) (worker : ℕ) : World → Prop where
  | calm {next : World} (calm : w.Calm next) (history : next.history = w.history) :
      Effect steady w worker next
  | writes {next : World} {old new : Operation} (grounded : w.Grounded worker)
      (writes : w.Writes steady next worker old new) : Effect steady w worker next
  | inserts {row : Operation} {db : Database} (named : row.Named)
      (inserted : w.db.insertOperation row = some db) :
      Effect steady w worker (w.insert worker row db)
  | deletes {next : World} {old new : Operation} (grounded : w.Grounded worker)
      (deletes : w.Deletes steady next worker old new) : Effect steady w worker next
  | sends {row : Operation} {deadline expiry : Time}
      (holds : (Standing.holder row).Holds steady worker w)
      (stage : steady = true → row.stage = .createStarted)
      (leased : row.leaseExpiresAt = some expiry) (early : deadline < expiry) :
      Effect steady w worker (w.send worker row deadline)
  | lands : Effect steady w worker (w.land worker)

theorem World.Calm.refl (w : World) : w.Calm w :=
  ⟨⟨rfl, rfl, rfl⟩, rfl, rfl, Nat.le_refl _, fun _ member => member⟩

theorem World.Calm.drop (w : World) (identity : Identity) : w.Calm (w.drop identity) :=
  ⟨⟨rfl, rfl, rfl⟩, rfl, rfl, Nat.le_refl _, fun _ member => (List.mem_filter.mp member).1⟩

theorem World.Calm.record (w : World) (worker : ℕ) (action : Action) (reply : Reply action) :
    w.Calm (w.record worker action reply) :=
  ⟨⟨rfl, rfl, rfl⟩, rfl, rfl, Nat.le_refl _, fun _ member => member⟩

/-- Nothing happens. -/
theorem Effect.none (steady : Bool) (w : World) (worker : ℕ) : Effect steady w worker w :=
  .calm (.refl w) rfl

theorem Effect.orderly (orderly : Orderly steady w) (effect : Effect steady w worker next) :
    Orderly steady next := by
  cases effect with
  | calm calm => exact orderly.calm calm
  | writes grounded writes => exact orderly.write writes grounded
  | inserts named inserted => exact orderly.insert inserted named
  | deletes grounded deletes => exact orderly.delete deletes grounded
  | sends holds stage leased early => exact orderly.send holds stage leased early
  | lands => exact orderly.land

theorem Effect.others (orderly : Orderly steady w) (effect : Effect steady w worker next)
    (different : other ≠ worker) (holds : standing.Holds steady other w) :
    standing.Holds steady other next := by
  cases effect with
  | calm calm => exact holds.calm calm
  | writes grounded writes => exact holds.write orderly writes different
  | inserts _ inserted => exact holds.insert inserted (.inl different)
  | deletes grounded deletes => exact holds.delete orderly deletes different
  | sends own stage leased early => exact .send orderly own stage leased early different holds
  | lands => exact holds.land different

/-- What was written stays written. -/
theorem Effect.written (effect : Effect steady w worker next) {entry : ℕ × Operation}
    (member : entry ∈ w.written) : entry ∈ next.written := by
  cases effect with
  | calm calm => exact calm.written ▸ member
  | writes _ writes =>
    rw [writes.step]
    exact .tail _ member
  | inserts => exact .tail _ member
  | deletes _ deletes =>
    rw [deletes.step]
    exact member
  | sends | lands => exact member

/-- No operation comes back from where its account is asked for. -/
theorem Effect.past (effect : Effect steady w worker next) {id : String} (past : w.Past id) :
    next.Past id := by
  cases effect with
  | calm calm =>
    rw [World.Past, calm.operations]
    exact past
  | writes _ writes => exact past.replaces writes.operations writes.past
  | inserts _ inserted =>
    obtain ⟨current, found, stage⟩ := past
    exact ⟨current, insertOperation_kept inserted found, stage⟩
  | deletes _ deletes =>
    exact past.replaces deletes.operations fun before => deletes.stage ▸ before
  | sends | lands => exact past

theorem Effect.history (effect : Effect steady w worker next) : next.history = w.history := by
  cases effect with
  | calm _ history => exact history
  | writes _ writes =>
    rw [writes.step]
    rfl
  | deletes _ deletes => rw [deletes.step]
  | inserts | sends | lands => rfl

/-- What a worker knows besides where it stands. -/
theorem Effect.holds {before : Stance} (effect : Effect steady w worker next)
    (holds : before.Holds steady other w) (reached : standing.Holds steady other next) :
    Stance.Holds steady { before with standing := standing } other next where
  standing := reached
  rows := fun row member => by
    obtain ⟨writer, written, mine⟩ := holds.rows row member
    exact ⟨writer, effect.written written, mine⟩
  past := fun id member => effect.past (holds.past id member)
  written := fun row member => by
    obtain ⟨writer, written⟩ := holds.written row member
    exact ⟨writer, effect.written written⟩
  found := by
    rw [World.found, effect.history]
    exact holds.found
  lost := by
    rw [World.lost, effect.history]
    exact holds.lost

theorem Effect.holds_write {before : Stance} (effect : Effect steady w worker next)
    (holds : before.Holds steady worker w) (reached : standing.Holds steady worker next)
    (knows : next.Knows steady worker row) :
    (before.write row standing).Holds steady worker next := by
  have kept := effect.holds holds reached
  refine { kept with rows := fun old member => ?_ }
  obtain _ | ⟨_, member⟩ := member
  · exact knows
  · exact kept.rows old member

theorem World.Writes.knows (writes : w.Writes steady next worker old new) :
    next.Knows steady worker new := by
  refine ⟨worker, ?_, fun _ => .inl rfl⟩
  rw [writes.step]
  exact .head _

theorem Standing.Holds.absent_delete (holds : (Standing.absent row).Holds steady worker w)
    (deletes : w.Deletes steady next worker old new) :
    (Standing.absent row).Holds steady worker next := by
  obtain ⟨grounded, written, gone⟩ := holds
  obtain ⟨step, operations, -, -, -, -, stage, -⟩ := deletes
  have past : w.Past row.id → next.Past row.id :=
    fun past => past.replaces operations fun old_past => stage ▸ old_past
  rw [step] at past ⊢
  refine ⟨grounded, written, fun steadily => ?_⟩
  obtain ⟨missing, landed, settled⟩ := gone steadily
  exact ⟨missing, landed, settled.imp id past⟩

/-- The worker that inserts an operation has made it. -/
theorem Standing.Holds.inserted (orderly : Orderly steady w) (grounded : w.Grounded worker)
    (inserted : w.db.insertOperation row = some db) :
    (Standing.creator row).Holds steady worker (w.insert worker row db) := by
  obtain ⟨-, -, fresh, -⟩ := Database.insertOperation_inv inserted
  refine ⟨grounded, ⟨row, .head _, rfl⟩, fun call called same => ?_⟩
  obtain ⟨first, made, first_id⟩ := orderly.callers call called
  obtain ⟨_, found⟩ := orderly.present _ made
  rw [show first.id = row.id from first_id.trans same, fresh] at found
  cases found

/-- An account that was dropped is gone for good, once nobody is to ask for it. -/
theorem Standing.Holds.dropped {writer : ℕ} (orderly : Orderly steady w)
    (grounded : w.Grounded worker) (written : (writer, row) ∈ w.written) (past : row.stage.past) :
    (Standing.absent row).Holds steady worker (w.drop row.identity) := by
  obtain ⟨current, found, -, -, past_current, -⟩ := orderly.current _ written
  refine ⟨grounded, ⟨writer, written⟩, fun steadily => ⟨fun member => ?_,
    fun flight member same unapplied => ?_, .inr ⟨current, found, past_current past⟩⟩⟩
  · simp [World.drop] at member
  · by_contra late
    have flying := orderly.flights steadily flight member unapplied (Nat.le_of_not_lt late)
    have here := flying.current
    rw [same, found] at here
    have stage := past_current past
    rw [some.inj here, flying.started] at stage
    cases stage

/-- The row that an operation has, if it is active, was written. -/
theorem Orderly.operation? {id : String} (orderly : Orderly steady w)
    (found : w.db.operation? id = some row) :
    w.db.operations.get? id = some row ∧ ∃ writer, (writer, row) ∈ w.written := by
  obtain ⟨stored, active⟩ := Option.filter_eq_some_iff.mp found
  exact ⟨stored, orderly.authored id row stored active⟩

/-- What is read back is a row of the operation, and where all calls are steady it is the row that
the worker wrote or one past the point where the account is asked for. -/
theorem Stance.Holds.read {id : String} (orderly : Orderly steady w)
    (holds : stance.Holds steady worker w) (permitted : stance.permits steady (.operation id))
    (found : w.db.operation? id = some row)
    (calm : steady = true → w.Steady worker (.operation id) (some row)) :
    stance.possible steady (.operation id) (some row) ∧ w.Knows steady worker row := by
  obtain ⟨stored, writer, written⟩ := orderly.operation? found
  have past : id ∈ stance.past → row.stage.past := by
    intro member
    obtain ⟨_, here, stage⟩ := holds.past id member
    cases here.symm.trans stored
    exact stage
  have started : steady = true → ∀ mine, stance.standing = .started mine → mine.id = id →
      (worker, row) ∈ w.written ∧ row.stage = .createStarted := by
    intro steadily mine stands same
    have held := holds.standing
    rw [stands] at held
    obtain ⟨-, -, last, wrote, stage⟩ := held
    rw [same] at wrote
    obtain rfl := calm steadily last row wrote stage rfl
    exact ⟨(mem_of_last wrote).1, stage⟩
  refine ⟨?_, writer, written, ?_⟩
  · rintro _ ⟨⟩
    refine ⟨Table.get?_key stored, fun old member same => ?_, past, fun steadily mine stands same =>
      (started steadily mine stands same).2⟩
    obtain ⟨_, theirs, -⟩ := holds.rows old member
    obtain ⟨current, here, origin, -⟩ := orderly.current _ theirs
    rw [show (_, old).2.id = id from same, stored] at here
    cases here
    exact origin
  · intro steadily
    obtain member | ⟨mine, stands, same⟩ := permitted.2
    · exact .inr (past member)
    · have mine_written := (started steadily mine stands same).1
      exact .inl (congrArg Prod.fst (orderly.unique _ written _ mine_written rfl rfl))

theorem Stance.Holds.origin (orderly : Orderly steady w) (holds : stance.Holds steady worker w)
    (fenced : old.fence = expected) (writes : w.Writes steady next worker old new) :
    ∀ mine ∈ stance.rows, mine.fence = expected → new.origin = mine.origin := by
  intro mine member same
  obtain ⟨_, written, -⟩ := holds.rows mine member
  have equal := orderly.current_eq written (fenced.trans same.symm)
    writes.operations.present writes.was_active
  exact writes.origin.trans (congrArg Operation.origin equal)

/-- A call has one of the effects, and leads where the discipline says. -/
structure Keeps (steady : Bool) (worker : ℕ) (stance : Stance) (w : World) (action : Action)
    (reply : Reply action) (next : World) : Prop where
  effect : Effect steady w worker next
  possible : stance.possible steady action reply
  holds : (stance.step action reply).Holds steady worker next
  found : ∀ row, action.finds reply = some row → ∃ writer, (writer, row) ∈ next.written

theorem found_none : ∀ row, (none : Option Operation) = some row →
    ∃ writer, (writer, row) ∈ next.written :=
  fun _ none => (nomatch none)

section Calls

variable (orderly : Orderly steady w) (holds : stance.Holds steady worker w)

include holds

theorem Stance.Holds.weaken : stance.weaken.Holds steady worker w :=
  (Effect.none steady w worker).holds holds holds.standing.weaken

include orderly

theorem keeps_lookup {actorId key : String} {reply : Reply (.lookup actorId key)}
    (performed : World.performs codec worker w (.lookup actorId key) reply next) :
    Keeps steady worker stance w (.lookup actorId key) reply next := by
  obtain ⟨rfl, rfl | rfl⟩ := performed
  · exact ⟨.none .., fun _ found => (nomatch found), holds, found_none⟩
  · cases found : next.db.databaseProvisioningOperationByIdempotency actorId key with
    | none => exact ⟨.none .., fun _ none => (nomatch none), holds, found_none⟩
    | some row =>
      have chosen := List.find?_some found
      simp only [Bool.and_eq_true, beq_iff_eq] at chosen
      have member := Table.get?_of_mem (List.mem_of_find?_eq_some found)
      refine ⟨.none .., fun other same => ?_, holds, fun other same => ?_⟩
      · cases some.inj same
        exact ⟨chosen.1.2, chosen.2⟩
      · cases some.inj same
        exact orderly.authored _ row member chosen.1.1

theorem keeps_operation {id : String} {reply : Reply (.operation id)}
    (permitted : stance.permits steady (.operation id))
    (calm : steady = true → w.Steady worker (.operation id) reply)
    (performed : World.performs codec worker w (.operation id) reply next) :
    Keeps steady worker stance w (.operation id) reply next := by
  obtain ⟨rfl, rfl | rfl⟩ := performed
  · exact ⟨.none .., fun _ none => (nomatch none), holds, found_none⟩
  · cases found : next.db.operation? id with
    | none => exact ⟨.none .., fun _ none => (nomatch none), holds, found_none⟩
    | some row =>
      obtain ⟨possible, knows⟩ := holds.read orderly permitted found (found ▸ calm)
      exact ⟨.none .., possible, (Effect.none steady next worker).holds_write holds
        holds.standing.weaken.wrote knows, found_none⟩

theorem keeps_create {input : OperationInput} {reply : Reply (.create input)}
    (permitted : stance.permits steady (.create input))
    (performed : World.performs codec worker w (.create input) reply next) :
    Keeps steady worker stance w (.create input) reply next := by
  have standing := holds.standing
  obtain ⟨rfl, rfl⟩ | ⟨now, later, row, window, db, committed, -, -, rfl, answer⟩ := performed
  · exact ⟨.none .., fun _ none => (nomatch none), holds.weaken, found_none⟩
  obtain ⟨expiry, valid, -, rfl, inserted, -⟩ := create_inv committed
  have effect : Effect steady w worker _ := .inserts (OperationInput.named valid now expiry) inserted
  obtain rfl | rfl := answer
  · refine ⟨effect, fun row same => ?_, ?_, found_none⟩
    · cases same
      exact ⟨now, expiry, rfl⟩
    · exact effect.holds_write holds (.inserted orderly (standing.grounded permitted) inserted)
        ⟨worker, .head _, fun _ => .inl rfl⟩
  · refine ⟨effect, fun _ none => (nomatch none), effect.holds holds ?_, found_none⟩
    refine standing.weaken.insert inserted (.inr fun mine same => ?_)
    revert same
    cases stance.standing <;> simp [Standing.weaken]

theorem keeps_transition {move : Transition} {reply : Reply (.transition expected move)}
    (permitted : stance.permits steady (.transition expected move))
    (performed : World.performs codec worker w (.transition expected move) reply next) :
    Keeps steady worker stance w (.transition expected move) reply next := by
  have standing := holds.standing
  obtain ⟨rfl, rfl⟩ | ⟨now, row, db, committed, -, found, rfl⟩ := performed
  · exact ⟨.none .., trivial, holds.weaken, found_none⟩
  obtain ⟨id, stage, old, writes⟩ := writes_transition orderly holds permitted committed found
  have effect : Effect steady w worker _ := .writes (standing.grounded permitted.1) writes
  refine ⟨effect, trivial, ?_, found_none⟩
  cases reply with
  | false => exact effect.holds holds (standing.weaken_write permitted.1 writes)
  | true =>
    have moved := standing.moved permitted.1 writes
    rw [id, stage] at moved
    have reached := effect.holds holds moved
    refine { reached with past := fun other member => ?_ }
    simp only [Stance.step, Stance.moved] at member
    split at member
    · obtain _ | ⟨_, member⟩ := member
      · refine ⟨row, id ▸ writes.id_eq ▸ writes.get?_new, stage ▸ ?_⟩
        assumption
      · exact reached.past other member
    · exact reached.past other member

theorem keeps_claim {reply : Reply (.claim expected lease)}
    (permitted : stance.permits steady (.claim expected lease))
    (performed : World.performs codec worker w (.claim expected lease) reply next) :
    Keeps steady worker stance w (.claim expected lease) reply next := by
  have standing := holds.standing
  obtain ⟨rfl, rfl⟩ | ⟨now, later, row, window, db, committed, early, intime, rfl, answer⟩ :=
    performed
  · exact ⟨.none .., trivial, holds.weaken, found_none⟩
  obtain ⟨old, writes⟩ := writes_claim worker orderly (Nat.le_trans early intime) committed
  have weaker := standing.weaken_write permitted writes
  have effect : Effect steady w worker _ := .writes (standing.grounded permitted) writes
  refine ⟨effect, trivial, ?_, found_none⟩
  obtain rfl | rfl := answer
  · exact effect.holds_write holds weaker.wrote writes.knows
  · exact effect.holds holds weaker

theorem keeps_renew {reply : Reply (.renew expected lease)}
    (permitted : stance.permits steady (.renew expected lease))
    (performed : World.performs codec worker w (.renew expected lease) reply next) :
    Keeps steady worker stance w (.renew expected lease) reply next := by
  have standing := holds.standing
  obtain ⟨rfl, rfl⟩ | ⟨started, now, later, row, window, db, committed, first, second, -, rfl,
    answer⟩ := performed
  · exact ⟨.none .., fun _ _ _ none => (nomatch none), holds.weaken, found_none⟩
  obtain ⟨old, fenced, stage, ⟨expiry, leased, left⟩, writes⟩ :=
    writes_renew orderly holds permitted committed
  have effect : Effect steady w worker _ := .writes (standing.grounded permitted.1) writes
  obtain rfl | rfl := answer
  · refine ⟨effect, fun begun other left_over same => ?_, effect.holds_write holds
      (standing.renewed permitted.1 writes) writes.knows, found_none⟩
    cases same
    exact ⟨stage.trans (congrArg Fence.stage fenced),
      writes.id_eq.trans (congrArg Fence.id fenced), holds.origin orderly fenced writes,
      expiry, leased, Nat.le_trans (Nat.add_le_add_right (Nat.le_trans first second) _) left⟩
  · exact ⟨effect, fun _ _ _ none => (nomatch none),
      effect.holds holds (standing.weaken_write permitted.1 writes), found_none⟩

omit orderly in
theorem keeps_beginDeprovision {accountId : String} {reply : Reply (.beginDeprovision accountId lease)}
    (permitted : stance.permits steady (.beginDeprovision accountId lease))
    (performed : World.performs codec worker w (.beginDeprovision accountId lease) reply next) :
    Keeps steady worker stance w (.beginDeprovision accountId lease) reply next := by
  have standing := holds.standing
  obtain ⟨rfl, rfl⟩ | ⟨now, result, _, db, committed, -, rfl, answer⟩ := performed
  · exact ⟨.none .., trivial, holds.weaken, found_none⟩
  cases result with
  | none =>
    obtain rfl | rfl := answer
    · exact ⟨.none .., trivial, holds.weaken, found_none⟩
    · exact ⟨.none .., trivial, holds.weaken, found_none⟩
  | some row =>
    obtain ⟨old, writes⟩ := writes_beginDeprovision steady worker committed
    have weaker := standing.weaken_write permitted writes
    have effect : Effect steady w worker _ := .writes (standing.grounded permitted) writes
    refine ⟨effect, trivial, ?_, found_none⟩
    obtain rfl | rfl := answer
    · exact effect.holds_write holds weaker.wrote writes.knows
    · exact effect.holds holds weaker

theorem keeps_dropAccount {operation : Operation} {reply : Reply (.dropAccount operation)}
    (permitted : stance.permits steady (.dropAccount operation))
    (performed : World.performs codec worker w (.dropAccount operation) reply next) :
    Keeps steady worker stance w (.dropAccount operation) reply next := by
  have standing := holds.standing
  obtain ⟨idle, member, past⟩ := permitted
  obtain rfl | ⟨rfl, rfl⟩ := performed
  · have effect : Effect steady w worker _ := .calm (.drop w operation.identity) rfl
    refine ⟨effect, trivial, ?_, found_none⟩
    cases reply with
    | false => exact effect.holds holds (standing.calm (.drop w _))
    | true =>
      obtain ⟨_, written, -⟩ := holds.rows _ member
      exact effect.holds holds (.dropped orderly (standing.grounded idle) written past)
  · exact ⟨.none .., trivial, holds, found_none⟩

/-- Every permitted call keeps to the discipline. -/
theorem performs_keeps {action : Action} {reply : Reply action}
    (permitted : stance.permits steady action)
    (calm : steady = true → w.Steady worker action reply)
    (performed : World.performs codec worker w action reply next) :
    Keeps steady worker stance w action reply next := by
  have standing := holds.standing
  cases action with
  | lookup => exact keeps_lookup orderly holds performed
  | operation => exact keeps_operation orderly holds permitted calm performed
  | create => exact keeps_create orderly holds permitted performed
  | transition => exact keeps_transition orderly holds permitted performed
  | claim => exact keeps_claim orderly holds permitted performed
  | renew => exact keeps_renew orderly holds permitted performed
  | beginDeprovision => exact keeps_beginDeprovision holds permitted performed
  | dropAccount => exact keeps_dropAccount orderly holds permitted performed
  | activate expected =>
    obtain ⟨rfl, rfl⟩ | ⟨now, later, accountId, account, row, db, committed, -, -, found, rfl, -⟩ :=
      performed
    · exact ⟨.none .., trivial, holds.weaken, found_none⟩
    obtain ⟨old, writes⟩ := writes_activate orderly holds permitted committed found
    have effect : Effect steady w worker _ := .writes (standing.grounded permitted.1) writes
    exact ⟨effect, trivial, effect.holds holds (standing.weaken_write permitted.1 writes),
      found_none⟩
  | completeDeprovision expected accountId =>
    obtain ⟨rfl, -⟩ | ⟨now, later, _, db, committed, -, -, rfl⟩ := performed
    · exact ⟨.none .., trivial, holds.weaken, found_none⟩
    obtain ⟨old, _, deletes⟩ := deletes_completeDeprovision orderly holds permitted committed
    obtain ⟨_, -, absent, rfl⟩ := permitted
    rw [absent] at standing
    have effect : Effect steady w worker _ := .deletes standing.1 deletes
    refine ⟨effect, trivial, effect.holds holds ?_, found_none⟩
    simp only [absent]
    exact standing.absent_delete deletes
  | account | list | administrator | clock =>
    obtain ⟨rfl, -⟩ := performed
    exact ⟨.none .., trivial, holds, found_none⟩
  | proceed | random | resolveAccountHost | grantAccount =>
    obtain rfl := performed
    exact ⟨.none .., trivial, holds, found_none⟩
  | createAccount operation deadline =>
    obtain rfl : next = w.send worker operation deadline := performed
    obtain ⟨holder, stage, expiry, leased, early⟩ := permitted
    rw [holder] at standing
    have effect : Effect steady w worker _ := .sends standing stage leased early
    exact ⟨effect, trivial, effect.holds holds (.sent orderly standing), found_none⟩
  | createResult operation =>
    obtain rfl : next = w.land worker := performed
    rw [show stance.standing = .sent operation from permitted] at standing
    obtain ⟨free, absent⟩ := standing.landed
    refine ⟨.lands, trivial, ?_, found_none⟩
    obtain ⟨disposition, _⟩ := reply
    cases disposition with
    | notSent => exact Effect.lands.holds holds (absent fun steadily => calm steadily (.inl rfl))
    | notCreated => exact Effect.lands.holds holds (absent fun steadily => calm steadily (.inr rfl))
    | mayBeApplied | applied => exact Effect.lands.holds holds free

end Calls

/-! ## Histories -/

theorem found_record_other {action : Action} {reply : Reply action} (different : other ≠ worker) :
    (w.record worker action reply).found other = w.found other := by
  simp [World.found, World.record, different.symm]

theorem lost_record_other {action : Action} {reply : Reply action} (different : other ≠ worker) :
    (w.record worker action reply).lost other = w.lost other := by
  simp [World.lost, World.record, different.symm]

theorem found_record {action : Action} {reply : Reply action} :
    (w.record worker action reply).found worker =
      (action.finds reply).toList ++ w.found worker := by
  simp only [World.found, World.record, List.filter_cons, beq_self_eq_true, if_true]
  cases found : action.finds reply <;> simp [found]

theorem lost_record {action : Action} {reply : Reply action} :
    (w.record worker action reply).lost worker = action.fails reply := by
  simp [World.lost, World.record]

theorem Stance.Holds.record_other {action : Action} {reply : Reply action}
    (holds : stance.Holds steady other w) (different : other ≠ worker) :
    stance.Holds steady other (w.record worker action reply) :=
  { holds with
    standing := holds.standing.calm (.record ..)
    found := holds.found.trans (found_record_other different).symm
    lost := holds.lost.trans (lost_record_other different).symm }

/-- The worker of a call has what the call has found. -/
theorem Stance.Holds.record {action : Action} {reply : Reply action} {before : Stance}
    (holds : stance.Holds steady worker w) (found : before.found = w.found worker)
    (finds : ∀ row, action.finds reply = some row → ∃ writer, (writer, row) ∈ w.written)
    (known : ∀ row ∈ before.found, ∃ writer, (writer, row) ∈ w.written) :
    Stance.Holds steady { stance with
      found := (action.finds reply).toList ++ before.found, lost := action.fails reply } worker
      (w.record worker action reply) where
  standing := holds.standing.calm (.record ..)
  rows := holds.rows
  past := holds.past
  written := fun row member => by
    obtain member | member := List.mem_append.mp member
    · exact finds row (Option.mem_toList.mp member)
    · exact known row member
  found := by rw [found_record, found]
  lost := lost_record.symm

/-- The surroundings are orderly, and take nothing from anybody. -/
theorem surroundings_orderly (orderly : Orderly steady w) (changed : World.Surroundings w next) :
    Orderly steady next ∧ ∀ {stance : Stance} {worker : ℕ}, stance.Holds steady worker w →
      stance.Holds steady worker next := by
  have quiet : w.Calm next → next.history = w.history → Orderly steady next ∧
      ∀ {stance : Stance} {worker : ℕ}, stance.Holds steady worker w →
        stance.Holds steady worker next := fun calm history =>
    ⟨orderly.calm calm, fun {_} {worker} holds =>
      (Effect.calm calm history : Effect steady w worker next).holds holds
        (holds.standing.calm calm)⟩
  have operations := changed.operations
  cases changed with
  | tick later =>
    exact quiet ⟨⟨rfl, rfl, rfl⟩, rfl, rfl, later, fun _ member => member⟩ rfl
  | effect sent new intime =>
    exact ⟨orderly.apply sent new intime, fun {_} {_} holds =>
      { holds with standing := holds.standing.apply orderly sent new intime }⟩
  | vanish => exact quiet (.drop w _) rfl
  | addAccount | updateAccount | deleteAccount | addInstance | updateInstance | deleteInstance =>
    exact quiet ⟨⟨operations, rfl, rfl⟩, rfl, rfl, Nat.le_refl _, fun _ member => member⟩ rfl

theorem discipline_sound : (discipline steady).Sound (World.workshop codec steady)
    (Orderly steady) (Stance.Holds steady) where
  performs := by
    rintro worker before action reply _ stance orderly holds permitted
      ⟨calm, after, performed, rfl⟩
    obtain ⟨effect, possible, reached, finds⟩ :=
      performs_keeps orderly holds permitted calm performed
    refine ⟨(effect.orderly orderly).calm (.record ..), possible, ?_⟩
    have found : stance.found = after.found worker := by
      rw [World.found, effect.history]
      exact holds.found
    refine reached.record found finds fun row member => ?_
    obtain ⟨writer, written⟩ := holds.written row member
    exact ⟨writer, effect.written written⟩
  others := by
    rintro worker before action reply _ stance other own orderly holds permitted
      ⟨calm, after, performed, rfl⟩ different held
    obtain ⟨effect, -, -, -⟩ := performs_keeps orderly holds permitted calm performed
    have kept := effect.holds held (effect.others orderly different held.standing)
    exact kept.record_other different
  surroundings := fun orderly changed => surroundings_orderly orderly changed

end Jianmen.Provisioning
