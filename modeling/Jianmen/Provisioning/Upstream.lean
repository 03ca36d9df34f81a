import Jianmen.Provisioning.World

/-!
# Upstream accounts

An operation is made once, and its account is asked for once, by whom made it.  Where all calls are
steady, whoever has written a row in the stage `create_started` is the only one to go on from it,
and until its lease ends nobody else changes it.  So while a statement that creates an account can
take effect, the operation stays where it is, and once a worker has seen that the account is not
there it will not be there any more.
-/

namespace Jianmen.Provisioning

open List Table World

/-- The account of the operation was asked for, or never will be. -/
def Stage.past : Stage → Bool
  | .reserved | .createStarted => false
  | _ => true

/-- In these stages there may be an upstream account. -/
def Stage.upstream : Stage → Bool
  | .reserved | .notCreated => false
  | _ => true

variable {source target : Stage} {cleanup : CleanupStatus} {first second : Operation}
  {db : Database}

theorem transition_past (valid : validProvisioningTransition source target cleanup)
    (past : source.past) : target.past := by
  revert valid past
  cases source <;> cases target <;> cases cleanup <;> decide

theorem transition_upstream (valid : validProvisioningTransition source target cleanup)
    (other : target ≠ .notCreated) : target.upstream := by
  revert valid other
  cases source <;> cases target <;> cases cleanup <;> decide

/-! ## The invariant -/

/-- What no call changes in a row: the account it is for, and the request it comes from. -/
structure Origin where
  identity : Identity
  actorId : String
  idempotencyKey : Option String
  requestHash : String
  deriving DecidableEq

def Operation.origin (row : Operation) : Origin :=
  ⟨row.identity, row.actorId, row.idempotencyKey, row.requestHash⟩

theorem Operation.identity_of_origin
    (same : first.origin = second.origin) : first.identity = second.identity :=
  congrArg Origin.identity same

/-- The token that names an operation and its account. -/
def Operation.Named (row : Operation) : Prop :=
  ∃ token, row.id.toList = "jmo_".toList ++ token ∧ row.username.toList = "jm_".toList ++ token

theorem Operation.Named.id_eq (first_named : first.Named)
    (second_named : second.Named) (same : first.identity = second.identity) :
    first.id = second.id := by
  obtain ⟨token, id, username⟩ := first_named
  obtain ⟨other, other_id, other_username⟩ := second_named
  have usernames : first.username = second.username := congrArg Identity.username same
  rw [usernames, other_username] at username
  obtain rfl : other = token := append_cancel_left username
  exact String.toList_inj.mp (id.trans other_id.symm)

/-- A statement that can still take effect: the row it was sent for is as it was. -/
structure Flying (w : World) (flight : Flight) : Prop where
  written : (flight.worker, flight.operation) ∈ w.written
  current : w.db.operations.get? flight.operation.id = some flight.operation
  active : flight.operation.active = true
  started : flight.operation.stage = .createStarted
  leased : ∃ expiry, flight.operation.leaseExpiresAt = some expiry ∧ flight.deadline < expiry

/-- No two active rows are for one key of one actor. -/
def Keyed (operations : Table Operation.id) : Prop :=
  ∀ {id other first second}, operations.get? id = some first →
    operations.get? other = some second → first.active = true → second.active = true →
    first.actorId = second.actorId → first.idempotencyKey = second.idempotencyKey →
    first.idempotencyKey.isSome = true → id = other

/-- What is always so, and what is so where all calls are steady. -/
structure Orderly (steady : Bool) (w : World) : Prop where
  named : ∀ id row, w.db.operations.get? id = some row → row.Named
  /-- No two workers write the same revision. -/
  unique : ∀ first ∈ w.written, ∀ second ∈ w.written, first.2.id = second.2.id →
    first.2.revision = second.2.revision → first = second
  /-- The rows of the table are later than what was written. -/
  current : ∀ entry ∈ w.written, ∃ row, w.db.operations.get? entry.2.id = some row ∧
    row.origin = entry.2.origin ∧ entry.2.revision ≤ row.revision ∧
    (entry.2.stage.past = true → row.stage.past = true) ∧
    (entry.2.revision = row.revision → row.active = true → row = entry.2)
  authored : ∀ id row, w.db.operations.get? id = some row → row.active = true →
    ∃ writer, (writer, row) ∈ w.written
  flights : steady = true → ∀ flight ∈ w.flights, flight.applied = false →
    w.clock ≤ flight.deadline → Flying w flight
  called : ∀ flight ∈ w.flights, (flight.worker, flight.operation) ∈ w.calls
  /-- No operation is made twice, and its account is asked for by whom made it, once. -/
  created : ∀ first ∈ w.created, ∀ second ∈ w.created, first.2.id = second.2.id →
    first = second
  present : ∀ entry ∈ w.created, ∃ row, w.db.operations.get? entry.2.id = some row
  callers : ∀ call ∈ w.calls, ∃ first, (call.1, first) ∈ w.created ∧ first.id = call.2.id
  once : (w.calls.map fun call => call.2.id).Nodup
  upstream : ∀ identity ∈ w.upstream, ∃ row ∈ w.db.operations.rows, row.identity = identity ∧
    (steady = true → row.active = true ∧ row.stage.upstream = true) ∧
    ∃ call ∈ w.calls, call.2.id = row.id
  asked : ∀ call ∈ w.calls, call ∈ w.written
  keyed : Keyed w.db.operations

/-! ## Standings -/

/-- What a worker stands on: nothing; an operation it has made, for which it has not asked for an
account yet; such an operation whose row it has just moved to `create_started`; a row of such an
operation whose lease it has renewed; a statement it has sent; and a row whose account is not there
and never will be. -/
inductive Standing where
  | free
  | creator (row : Operation)
  | started (row : Operation)
  | holder (row : Operation)
  | sent (row : Operation)
  | absent (row : Operation)

namespace Standing

/-- A worker that has sent a statement waits for it. -/
def waits : Standing → Bool
  | .sent _ => true
  | _ => false

/-- What is left of a standing after a call that may have changed the row. -/
def weaken : Standing → Standing
  | .started row | .holder row => .creator row
  | standing => standing

/-- The standing after the row of an operation has been moved to a stage. -/
def moved (id : String) (stage : Stage) (standing : Standing) : Standing :=
  match standing.weaken with
  | .creator mine => if mine.id = id ∧ stage = .createStarted then .started mine else .creator mine
  | weaker => weaker

/-- The standing after a row was seen: who has made an operation goes on with it. -/
def wrote (row : Operation) (standing : Standing) : Standing :=
  match standing.weaken with
  | .creator mine => .creator (if row.id = mine.id then row else mine)
  | weaker => weaker

/-- The standing after a lease has been renewed. -/
def renewed (row : Operation) (standing : Standing) : Standing :=
  match standing.wrote row with
  | .creator mine => if mine = row then .holder row else .creator mine
  | wrote => wrote

end Standing

/-- No statement of the worker is under way. -/
def World.Grounded (w : World) (worker : ℕ) : Prop :=
  ∀ flight ∈ w.flights, flight.worker ≠ worker

/-- The row of the operation is past the point where its account is asked for. -/
def World.Past (w : World) (id : String) : Prop :=
  ∃ current, w.db.operations.get? id = some current ∧ current.stage.past = true

/-- The account of the operation is not there and never will be. -/
structure World.Gone (w : World) (row : Operation) : Prop where
  missing : row.identity ∉ w.upstream
  flights : ∀ flight ∈ w.flights, flight.operation.id = row.id → flight.applied = false →
    flight.deadline < w.clock
  settled : (∃ call ∈ w.calls, call.2.id = row.id) ∨ w.Past row.id

/-- The worker made the operation and has not asked for its account. -/
def World.Unasked (w : World) (worker : ℕ) (row : Operation) : Prop :=
  (∃ first, (worker, first) ∈ w.created ∧ first.id = row.id) ∧ ∀ call ∈ w.calls, call.2.id ≠ row.id

/-- Until its lease ends, the row is as it was written. -/
def World.Held (w : World) (row : Operation) : Prop :=
  ∀ expiry, row.leaseExpiresAt = some expiry → w.clock < expiry →
    w.db.operations.get? row.id = some row ∧ row.active = true

/-- The row was written, and where all calls are steady by the worker or past the point where the
account is asked for. -/
def World.Knows (steady : Bool) (w : World) (worker : ℕ) (row : Operation) : Prop :=
  ∃ writer, (writer, row) ∈ w.written ∧ (steady = true → writer = worker ∨ row.stage.past = true)

def Standing.Holds (steady : Bool) (standing : Standing) (worker : ℕ) (w : World) : Prop :=
  match standing with
  | .free => w.Grounded worker
  | .creator row => w.Grounded worker ∧ w.Unasked worker row
  | .started row => w.Grounded worker ∧ w.Unasked worker row ∧
      ∃ mine, w.last worker row.id = some mine ∧ mine.stage = .createStarted
  | .holder row => w.Grounded worker ∧ (worker, row) ∈ w.written ∧ w.Unasked worker row ∧
      (steady = true → row.stage = .createStarted → w.Held row)
  | .sent row => (worker, row) ∈ w.written ∧ (worker, row) ∈ w.calls ∧
      (∀ flight ∈ w.flights, flight.worker = worker ∨ flight.operation.id = row.id →
        flight.worker = worker ∧ flight.operation = row) ∧
      ((∀ flight ∈ w.flights, flight.worker = worker → flight.applied = false) →
        row.identity ∉ w.upstream)
  | .absent row =>
    w.Grounded worker ∧ (∃ writer, (writer, row) ∈ w.written) ∧ (steady = true → w.Gone row)

/-- A standing stays where a step keeps each fact it rests on. -/
theorem Standing.Holds.transfer {steady : Bool} {w next : World} {worker : ℕ} {standing : Standing}
    (holds : standing.Holds steady worker w) (grounded : w.Grounded worker → next.Grounded worker)
    (written : ∀ entry ∈ w.written, entry ∈ next.written)
    (last : ∀ row, standing = .started row → next.last worker row.id = w.last worker row.id)
    (unasked : ∀ row, w.Unasked worker row → next.Unasked worker row)
    (held : steady = true → ∀ row, (worker, row) ∈ w.written → row.stage = .createStarted →
      w.Held row → next.Held row)
    (gone : steady = true → ∀ writer row, (writer, row) ∈ w.written → w.Gone row → next.Gone row)
    (sent : ∀ row, (Standing.sent row).Holds steady worker w →
      (Standing.sent row).Holds steady worker next) : standing.Holds steady worker next := by
  cases standing with
  | free => exact grounded holds
  | creator row => exact ⟨grounded holds.1, unasked row holds.2⟩
  | started row =>
    obtain ⟨idle, free, mine, written_last, stage⟩ := holds
    exact ⟨grounded idle, unasked row free, mine, (last row rfl).trans written_last, stage⟩
  | holder row =>
    obtain ⟨idle, mine, free, holding⟩ := holds
    exact ⟨grounded idle, written _ mine, unasked row free,
      fun undisturbed stage => held undisturbed row mine stage (holding undisturbed stage)⟩
  | sent row => exact sent row holds
  | absent row =>
    obtain ⟨idle, ⟨writer, theirs⟩, missing⟩ := holds
    exact ⟨grounded idle, ⟨writer, written _ theirs⟩,
      fun undisturbed => gone undisturbed writer row theirs (missing undisturbed)⟩

/-! ## Writing a row -/

/-- Why a worker may write the next revision of a row: it knows this one, or the lease of the row
has ended, or the row waits for nobody. -/
def World.MayWrite (steady : Bool) (w : World) (worker : ℕ) (old : Operation) : Prop :=
  (∃ row, w.Knows steady worker row ∧ row.fence = old.fence) ∨
    (∃ now, now ≤ w.clock ∧ expiredOrUnsetLeaseCondition now old = true) ∨
    old.stage = .activeManaged

/-- A worker writes the next revision of a row; all but the tables stays. -/
structure World.Writes (steady : Bool) (w next : World) (worker : ℕ) (old new : Operation) :
    Prop where
  step : next = w.write worker new next.db
  operations : Table.Replaces w.db.operations next.db.operations old new
  may : w.MayWrite steady worker old
  was_active : old.active = true
  active : new.active = true
  revision : new.revision = old.revision + 1
  origin : new.origin = old.origin
  past : old.stage.past = true → new.stage.past = true
  upstream : steady = true → old.identity ∈ w.upstream → new.stage.upstream = true

variable {steady : Bool} {w next : World} {worker : ℕ} {old new : Operation}

variable {row : Operation} {other : ℕ} {expiry deadline : Time} {flight : Flight}
  {standing : Standing}

theorem expired_le {now expiry : Time} (expired : expiredOrUnsetLeaseCondition now row)
    (leased : row.leaseExpiresAt = some expiry) : expiry ≤ now := by
  simpa [expiredOrUnsetLeaseCondition, leased] using expired

/-- A row that somebody else wrote and holds is not one a worker may write. -/
theorem Orderly.not_held (orderly : Orderly steady w) (undisturbed : steady = true)
    (may : w.MayWrite steady worker old) (different : other ≠ worker)
    (written : (other, old) ∈ w.written) (stage : old.stage = .createStarted)
    (leased : old.leaseExpiresAt = some expiry) : ¬w.clock < expiry := by
  obtain ⟨row, ⟨writer, theirs, mine⟩, fenced⟩ | ⟨_, past, expired⟩ | idle := may
  · have same := orderly.unique (other, old) written (writer, row) theirs
      (congrArg Fence.id fenced).symm (congrArg Fence.revision fenced).symm
    cases same
    obtain mine | past := mine undisturbed
    · exact absurd mine different
    · rw [stage] at past
      cases past
  · exact Nat.not_lt.mpr (Nat.le_trans (expired_le expired leased) past)
  · rw [stage] at idle
    cases idle

/-- No statement under way is disturbed by a worker that waits for none. -/
theorem Orderly.undisturbed (orderly : Orderly steady w) (steadily : steady = true)
    (may : w.MayWrite steady worker old) (grounded : w.Grounded worker)
    (present : w.db.operations.get? old.id = some old) (member : flight ∈ w.flights)
    (new : flight.applied = false) (intime : w.clock ≤ flight.deadline) :
    flight.operation.id ≠ old.id := by
  intro same
  obtain ⟨written, current, -, started, _, leased, later⟩ :=
    orderly.flights steadily flight member new intime
  rw [same, present] at current
  cases current
  exact orderly.not_held steadily may (grounded flight member) written started leased
    (Nat.lt_of_le_of_lt intime later)

theorem World.Writes.get?_new (writes : w.Writes steady next worker old new) :
    next.db.operations.get? old.id = some new :=
  writes.operations.get?_new

theorem World.Writes.id_eq (writes : w.Writes steady next worker old new) : new.id = old.id :=
  writes.operations.same_key

theorem Operation.Named.of_identity (named : old.Named) (id : new.id = old.id)
    (identity : new.identity = old.identity) : new.Named := by
  obtain ⟨token, id_eq, username_eq⟩ := named
  have usernames : new.username = old.username := congrArg Identity.username identity
  exact ⟨token, id ▸ id_eq, usernames ▸ username_eq⟩

/-- Keys stay unique where a row keeps its origin and comes back to no new life. -/
theorem Keyed.replaces {before after : Table Operation.id} (keyed : Keyed before)
    (operations : Table.Replaces before after old new)
    (active : new.active → old.active) (origin : new.origin = old.origin) :
    Keyed after := by
  have was : ∀ {id row}, after.get? id = some row → row.active → ∃ earlier,
      before.get? id = some earlier ∧ earlier.active ∧ earlier.actorId = row.actorId ∧
        earlier.idempotencyKey = row.idempotencyKey := by
    intro id row found row_active
    obtain ⟨rfl, rfl⟩ | found := operations.earlier found
    · exact ⟨old, operations.present, active row_active, (congrArg Origin.actorId origin).symm,
        (congrArg Origin.idempotencyKey origin).symm⟩
    · exact ⟨row, found, row_active, rfl, rfl⟩
  intro id other first second first_found second_found first_active second_active actor key isSome
  obtain ⟨earlier, found, living, actor_eq, key_eq⟩ := was first_found first_active
  obtain ⟨_, late_found, late_living, late_actor, late_key⟩ := was second_found second_active
  exact keyed found late_found living late_living (actor_eq.trans (actor.trans late_actor.symm))
    (key_eq.trans (key.trans late_key.symm)) (key_eq ▸ isSome)

/-- A write keeps everything in order. -/
theorem Orderly.write (orderly : Orderly steady w) (writes : w.Writes steady next worker old new)
    (grounded : w.Grounded worker) : Orderly steady next := by
  have present := writes.operations.present
  have older : ∀ entry ∈ w.written, entry.2.id = old.id → entry.2.revision ≤ old.revision := by
    intro entry member same
    obtain ⟨row, found, -, le, -⟩ := orderly.current entry member
    rw [same, present] at found
    exact Option.some.inj found ▸ le
  obtain ⟨step, operations, may, was_active, active, revision, origin, past, upstream⟩ := writes
  have id : new.id = old.id := operations.same_key
  have identity := Operation.identity_of_origin origin
  rw [step]
  constructor
  · intro key row found
    obtain ⟨-, rfl⟩ | found := operations.earlier found
    · exact (orderly.named old.id old present).of_identity id identity
    · exact orderly.named key row found
  · intro first first_mem second second_mem same_id same_revision
    have newer : ∀ entry ∈ w.written, entry.2.id = new.id → entry.2.revision ≠ new.revision := by
      intro entry member same
      have := older entry member (same.trans id)
      omega
    obtain _ | ⟨_, first_mem⟩ := first_mem
    · obtain _ | ⟨_, second_mem⟩ := second_mem
      · rfl
      · exact absurd same_revision.symm (newer second second_mem same_id.symm)
    · obtain _ | ⟨_, second_mem⟩ := second_mem
      · exact absurd same_revision (newer first first_mem same_id)
      · exact orderly.unique first first_mem second second_mem same_id same_revision
  · intro entry member
    obtain _ | ⟨_, member⟩ := member
    · exact ⟨new, id ▸ operations.get?_new, rfl, Nat.le_refl _, fun past => past, fun _ _ => rfl⟩
    · obtain ⟨row, found, facts⟩ := orderly.current entry member
      refine operations.later found facts fun ⟨same, le, stage, _⟩ => ?_
      exact ⟨origin.trans same, by omega, fun entry_past => past (stage entry_past), by omega⟩
  · intro key row found row_active
    obtain ⟨-, rfl⟩ | found := operations.earlier found
    · exact ⟨worker, .head _⟩
    · obtain ⟨writer, written⟩ := orderly.authored key row found row_active
      exact ⟨writer, .tail _ written⟩
  · intro steadily flight member unapplied intime
    have flying := orderly.flights steadily flight member unapplied intime
    have current := operations.get?_other
      (orderly.undisturbed steadily may grounded present member unapplied intime)
    exact { flying with written := .tail _ flying.written, current := current.trans flying.current }
  · exact orderly.called
  · exact orderly.created
  · intro entry member
    obtain ⟨row, found⟩ := orderly.present entry member
    obtain ⟨current, found, -⟩ :=
      operations.later (p := fun _ => True) found trivial fun _ => trivial
    exact ⟨current, found⟩
  · exact orderly.callers
  · exact orderly.once
  · intro account member
    obtain ⟨row, row_mem, same, living, call⟩ := orderly.upstream account member
    have found := get?_of_mem row_mem
    by_cases named : row.id = old.id
    · rw [named, present] at found
      cases found
      exact ⟨new, get?_mem operations.get?_new, identity.trans same,
        fun steadily => ⟨active, upstream steadily (same ▸ member)⟩, id ▸ call⟩
    · exact ⟨row, get?_mem ((operations.get?_other named).trans found), same, living, call⟩
  · exact fun call called => .tail _ (orderly.asked call called)
  · exact Keyed.replaces orderly.keyed operations (fun _ => was_active) origin

theorem World.Past.replaces {id : String} (before : w.Past id)
    (operations : Table.Replaces w.db.operations next.db.operations old new)
    (past : old.stage.past → new.stage.past) : next.Past id := by
  obtain ⟨current, found, current_past⟩ := before
  exact operations.later found current_past past

theorem last_write_other {db : Database} (different : other ≠ worker) (id : String) :
    (w.write worker row db).last other id = w.last other id := by
  simp [World.last, World.write, different.symm]

theorem last_write (w : World) (worker : ℕ) (row : Operation) (db : Database) :
    (w.write worker row db).last worker row.id = some row := by
  simp [World.last, World.write]

theorem mem_of_last {id : String} (last : w.last worker id = some row) :
    (worker, row) ∈ w.written ∧ row.id = id := by
  obtain ⟨entry, found, rfl⟩ := Option.map_eq_some_iff.mp last
  have chosen := find?_some found
  simp only [Bool.and_eq_true, beq_iff_eq] at chosen
  exact ⟨chosen.1 ▸ mem_of_find?_eq_some found, chosen.2⟩

/-- A write leaves the others where they stand. -/
theorem Standing.Holds.write (orderly : Orderly steady w)
    (writes : w.Writes steady next worker old new) (different : other ≠ worker)
    (holds : standing.Holds steady other w) : standing.Holds steady other next := by
  have past : ∀ id, w.Past id → next.Past id :=
    fun id past => past.replaces writes.operations writes.past
  have held : steady = true → ∀ row, (other, row) ∈ w.written → row.stage = .createStarted →
      w.Held row → next.Held row := by
    intro steadily row written stage holding expiry leased intime
    rw [writes.step] at intime
    obtain ⟨current, active⟩ := holding expiry leased intime
    refine ⟨(writes.operations.get?_other fun same => ?_).trans current, active⟩
    rw [same, writes.operations.present] at current
    cases current
    exact orderly.not_held steadily writes.may different written stage leased intime
  rw [writes.step] at held past ⊢
  exact holds.transfer id (fun _ => .tail _) (fun row _ => last_write_other different row.id)
    (fun _ => id) held
    (fun _ _ row _ gone => { gone with settled := gone.settled.imp id (past row.id) })
    fun _ sent => ⟨.tail _ sent.1, sent.2⟩

/-! ## Steps that write no row -/

/-- Nothing is written and no operation changes. -/
structure World.Quiet (w next : World) : Prop where
  operations : next.db.operations = w.db.operations
  written : next.written = w.written
  created : next.created = w.created

/-- Accounts and instances change, time passes, or an account goes away. -/
structure World.Calm (w next : World) : Prop extends w.Quiet next where
  flights : next.flights = w.flights
  calls : next.calls = w.calls
  clock : w.clock ≤ next.clock
  upstream : ∀ identity ∈ next.upstream, identity ∈ w.upstream

theorem Orderly.calm (orderly : Orderly steady w) (calm : w.Calm next) : Orderly steady next := by
  obtain ⟨⟨operations, written, created⟩, flights, calls, clock, upstream⟩ := calm
  constructor
  · rw [operations]
    exact orderly.named
  · rw [written]
    exact orderly.unique
  · rw [written, operations]
    exact orderly.current
  · rw [written, operations]
    exact orderly.authored
  · rw [flights]
    intro steadily flight member unapplied intime
    have flying := orderly.flights steadily flight member unapplied (Nat.le_trans clock intime)
    exact { flying with
      written := written ▸ flying.written, current := operations ▸ flying.current }
  · rw [flights, calls]
    exact orderly.called
  · rw [created]
    exact orderly.created
  · rw [created, operations]
    exact orderly.present
  · rw [calls, created]
    exact orderly.callers
  · rw [calls]
    exact orderly.once
  · rw [operations, calls]
    exact fun identity member => orderly.upstream identity (upstream identity member)
  · rw [calls, written]
    exact orderly.asked
  · rw [operations]
    exact orderly.keyed

theorem Standing.Holds.calm (holds : standing.Holds steady worker w) (calm : w.Calm next) :
    standing.Holds steady worker next := by
  obtain ⟨⟨operations, written, created⟩, flights, calls, clock, upstream⟩ := calm
  refine holds.transfer ?_ (fun entry mine => written ▸ mine) ?_ ?_ ?_ ?_ ?_
  · rw [World.Grounded, World.Grounded, flights]
    exact id
  · intro row _
    rw [World.last, World.last, written]
  · intro row unasked
    rw [World.Unasked, created, calls]
    exact unasked
  · intro _ row _ _ held expiry leased intime
    rw [operations]
    exact held expiry leased (Nat.lt_of_le_of_lt clock intime)
  · rintro - writer row - ⟨missing, landed, settled⟩
    refine ⟨fun member => missing (upstream _ member), ?_, ?_⟩
    · rw [flights]
      exact fun flight member same unapplied =>
        Nat.lt_of_lt_of_le (landed flight member same unapplied) clock
    · rw [calls, World.Past, operations]
      exact settled
  · rintro row ⟨author, called, mine, missing⟩
    refine ⟨written ▸ author, calls ▸ called, ?_, ?_⟩
    · rw [flights]
      exact mine
    · rw [flights]
      exact fun unapplied member => missing unapplied (upstream _ member)

/-! ## Statements under way -/

/-- Operations with different names have different accounts. -/
theorem Orderly.identity_ne {writer : ℕ} {first second : Operation} (orderly : Orderly steady w)
    (written : (worker, first) ∈ w.written) (written' : (writer, second) ∈ w.written)
    (different : first.id ≠ second.id) : first.identity ≠ second.identity := by
  intro same
  obtain ⟨current, found, origin, -⟩ := orderly.current _ written
  obtain ⟨current', found', origin', -⟩ := orderly.current _ written'
  have identities : current.identity = current'.identity :=
    (Operation.identity_of_origin origin).trans
      (same.trans (Operation.identity_of_origin origin').symm)
  have ids := (orderly.named _ current found).id_eq (orderly.named _ current' found') identities
  exact different ((get?_key found).symm.trans (ids.trans (get?_key found')))

/-- An operation whose account nobody asked for has none. -/
theorem Orderly.not_upstream (orderly : Orderly steady w) (written : (worker, row) ∈ w.written)
    (unasked : ∀ call ∈ w.calls, call.2.id ≠ row.id) : row.identity ∉ w.upstream := by
  intro member
  obtain ⟨holder, holder_mem, same, -, call, called, call_id⟩ := orderly.upstream _ member
  obtain ⟨current, found, origin, -⟩ := orderly.current _ written
  have identity := Operation.identity_of_origin origin
  have holder_found := get?_of_mem holder_mem
  have ids : holder.id = current.id := (orderly.named _ holder holder_found).id_eq
    (orderly.named _ current found) (same.trans identity.symm)
  exact unasked call called (call_id.trans (ids.trans (get?_key found)))

theorem Orderly.send (orderly : Orderly steady w)
    (holds : (Standing.holder row).Holds steady worker w)
    (stage : steady = true → row.stage = .createStarted)
    (leased : row.leaseExpiresAt = some expiry) (early : deadline < expiry) :
    Orderly steady (w.send worker row deadline) := by
  obtain ⟨_, written, ⟨⟨first, created⟩, unasked⟩, held⟩ := holds
  refine { orderly with
    flights := ?_, called := ?_, callers := ?_, once := ?_, upstream := ?_, asked := ?_ }
  · intro steadily flight member unapplied intime
    obtain _ | ⟨_, member⟩ := member
    · have started := stage steadily
      obtain ⟨current, active⟩ :=
        held steadily started expiry leased (Nat.lt_of_le_of_lt intime early)
      exact ⟨written, current, active, started, expiry, leased, early⟩
    · exact { orderly.flights steadily flight member unapplied intime with }
  · intro flight member
    obtain _ | ⟨_, member⟩ := member
    · exact .head _
    · exact .tail _ (orderly.called flight member)
  · intro call member
    obtain _ | ⟨_, member⟩ := member
    · exact ⟨first, created⟩
    · exact orderly.callers call member
  · refine nodup_cons.mpr ⟨fun member => ?_, orderly.once⟩
    obtain ⟨call, called, same⟩ := mem_map.mp member
    exact unasked call called same
  · intro identity member
    obtain ⟨current, current_mem, same, living, call, called, call_id⟩ :=
      orderly.upstream identity member
    exact ⟨current, current_mem, same, living, call, .tail _ called, call_id⟩
  · intro call member
    obtain _ | ⟨_, member⟩ := member
    · exact written
    · exact orderly.asked call member

theorem Standing.Holds.send (orderly : Orderly steady w)
    (holds : (Standing.holder row).Holds steady worker w)
    (stage : steady = true → row.stage = .createStarted)
    (leased : row.leaseExpiresAt = some expiry) (early : deadline < expiry)
    (different : other ≠ worker) (theirs : standing.Holds steady other w) :
    standing.Holds steady other (w.send worker row deadline) := by
  obtain ⟨-, -, ⟨⟨_, created, first_id⟩, unasked⟩, held⟩ := holds
  refine theirs.transfer ?_ (fun _ => id) (fun _ _ => rfl) ?_ (fun _ _ _ _ => id) ?_ ?_
  · intro grounded flight member
    obtain _ | ⟨_, member⟩ := member
    · exact different.symm
    · exact grounded flight member
  · rintro mine ⟨⟨made, made_mem, made_id⟩, none⟩
    refine ⟨⟨made, made_mem, made_id⟩, fun call member => ?_⟩
    obtain _ | ⟨_, member⟩ := member
    · intro same
      have equal := orderly.created _ made_mem _ created
        (made_id.trans (same.symm.trans first_id.symm))
      exact different (congrArg Prod.fst equal)
    · exact none call member
  · rintro steadily writer mine - ⟨missing, landed, settled⟩
    refine ⟨missing, fun flight member same unapplied => ?_, ?_⟩
    · obtain _ | ⟨_, member⟩ := member
      · by_contra late
        have intime : w.clock ≤ deadline := Nat.le_of_not_lt late
        have started := stage steadily
        obtain ⟨call, called, call_id⟩ | ⟨_, found, past⟩ := settled
        · exact unasked call called (call_id.trans same.symm)
        · obtain ⟨here, -⟩ :=
            held steadily started expiry leased (Nat.lt_of_le_of_lt intime early)
          rw [← same, here] at found
          rw [← Option.some.inj found, started] at past
          cases past
      · exact landed flight member same unapplied
    · exact settled.imp (fun ⟨call, called, same⟩ => ⟨call, .tail _ called, same⟩) id
  · rintro mine ⟨written, called, flights, missing⟩
    refine ⟨written, .tail _ called, fun flight member => ?_, fun unapplied => ?_⟩
    · obtain _ | ⟨_, member⟩ := member
      · rintro (same | same)
        · exact absurd same.symm different
        · exact absurd same.symm (unasked _ called)
      · exact flights flight member
    · exact missing fun flight member => unapplied flight (.tail _ member)

/-- The worker waits for the statement it has sent. -/
theorem Standing.Holds.sent (orderly : Orderly steady w)
    (holds : (Standing.holder row).Holds steady worker w) :
    (Standing.sent row).Holds steady worker (w.send worker row deadline) := by
  obtain ⟨grounded, written, ⟨-, unasked⟩, -⟩ := holds
  refine ⟨written, .head _, fun flight member => ?_, fun _ =>
    orderly.not_upstream written unasked⟩
  obtain _ | ⟨_, member⟩ := member
  · exact fun _ => ⟨rfl, rfl⟩
  · rintro (mine | same)
    · exact absurd mine (grounded flight member)
    · exact absurd same (unasked _ (orderly.called flight member))

theorem mem_land :
    flight ∈ (w.land worker).flights ↔ flight ∈ w.flights ∧ flight.worker ≠ worker := by
  simp [land]

theorem Orderly.land (orderly : Orderly steady w) : Orderly steady (w.land worker) := by
  refine { orderly with flights := ?_, called := ?_ }
  · intro steadily flight member unapplied intime
    exact { orderly.flights steadily flight (mem_land.mp member).1 unapplied intime with }
  · exact fun flight member => orderly.called flight (mem_land.mp member).1

theorem Standing.Holds.land (different : other ≠ worker) (holds : standing.Holds steady other w) :
    standing.Holds steady other (w.land worker) := by
  refine holds.transfer (fun grounded flight member => grounded flight (mem_land.mp member).1)
    (fun _ => id) (fun _ _ => rfl) (fun _ => id) (fun _ _ _ _ => id) ?_ ?_
  · exact fun _ _ row _ gone =>
      { gone with flights := fun flight member => gone.flights flight (mem_land.mp member).1 }
  · rintro row ⟨written, called, flights, missing⟩
    refine ⟨written, called, fun flight member => flights flight (mem_land.mp member).1,
      fun unapplied => missing fun flight member mine => ?_⟩
    exact unapplied flight (mem_land.mpr ⟨member, mine ▸ different⟩) mine

/-- The statement is over; if it has not taken effect, there is no account. -/
theorem Standing.Holds.landed (holds : (Standing.sent row).Holds steady worker w) :
    Standing.free.Holds steady worker (w.land worker) ∧
      ((steady = true → ∀ flight ∈ w.flights, flight.worker = worker → flight.applied = false) →
        (Standing.absent row).Holds steady worker (w.land worker)) := by
  obtain ⟨written, called, flights, missing⟩ := holds
  have grounded : (w.land worker).Grounded worker :=
    fun flight member => (mem_land.mp member).2
  refine ⟨grounded, fun unapplied => ⟨grounded, ⟨worker, written⟩, fun steadily =>
    ⟨missing (unapplied steadily), ?_, .inl ⟨_, called, rfl⟩⟩⟩⟩
  intro flight member same
  obtain ⟨member, away⟩ := mem_land.mp member
  exact absurd (flights flight member (.inr same)).1 away

/-- After a statement has taken effect, the others are as they were. -/
theorem mem_apply {flight changed : Flight} (member : changed ∈ (w.apply flight).flights) :
    changed = { flight with applied := true } ∨ changed ∈ w.flights := by
  obtain ⟨_, other_mem, rfl⟩ := mem_map.mp member
  split
  · exact .inl rfl
  · exact .inr other_mem

section

variable (orderly : Orderly steady w) (sent : flight ∈ w.flights)
  (unapplied : flight.applied = false) (intime : w.clock ≤ flight.deadline)
include orderly sent unapplied intime

theorem Orderly.apply : Orderly steady (w.apply flight) := by
  have called := orderly.called flight sent
  refine { orderly with flights := ?_, called := ?_, upstream := ?_ }
  · intro steadily changed member still still_intime
    obtain rfl | member := mem_apply member
    · cases still
    · exact { orderly.flights steadily changed member still still_intime with }
  · intro changed member
    obtain rfl | member := mem_apply member
    · exact called
    · exact orderly.called changed member
  · intro identity member
    obtain _ | ⟨_, member⟩ := member
    · obtain ⟨current, found, origin, -⟩ := orderly.current _ (orderly.asked _ called)
      refine ⟨current, get?_mem found, Operation.identity_of_origin origin, fun steadily => ?_,
        _, called, (get?_key found).symm⟩
      have flying := orderly.flights steadily flight sent unapplied intime
      rw [show (flight.worker, flight.operation).2 = flight.operation from rfl,
        flying.current] at found
      rw [← Option.some.inj found, flying.started]
      exact ⟨flying.active, rfl⟩
    · exact orderly.upstream identity member

theorem Standing.Holds.apply (holds : standing.Holds steady worker w) :
    standing.Holds steady worker (w.apply flight) := by
  have asked := orderly.asked _ (orderly.called flight sent)
  refine holds.transfer ?_ (fun _ => id) (fun _ _ => rfl) (fun _ => id) (fun _ _ _ _ => id) ?_ ?_
  · intro grounded changed member
    obtain rfl | member := mem_apply member
    · exact grounded flight sent
    · exact grounded changed member
  · rintro - writer row written ⟨missing, landed, settled⟩
    refine ⟨fun member => ?_, fun changed member same still => ?_, settled⟩
    · have other : row.id ≠ flight.operation.id := fun same =>
        absurd (landed flight sent same.symm unapplied) (Nat.not_lt.mpr intime)
      obtain same | member := mem_cons.mp member
      · exact orderly.identity_ne written asked other same
      · exact missing member
    · obtain rfl | member := mem_apply member
      · cases still
      · exact landed changed member same still
  · rintro row ⟨written, called, flights, missing⟩
    refine ⟨written, called, fun changed member => ?_, fun all_unapplied member => ?_⟩
    · obtain rfl | member := mem_apply member
      · exact flights flight sent
      · exact flights changed member
    · have applied_mem : { flight with applied := true } ∈ (w.apply flight).flights :=
        mem_map.mpr ⟨flight, sent, if_pos rfl⟩
      have away : flight.worker ≠ worker := by
        intro mine
        cases all_unapplied _ applied_mem mine
      have other : row.id ≠ flight.operation.id :=
        fun same => away (flights flight sent (.inr same.symm)).1
      obtain same | member := mem_cons.mp member
      · exact orderly.identity_ne written asked other same
      · refine missing (fun mine mine_mem worker_eq => ?_) member
        refine all_unapplied mine (mem_map.mpr ⟨mine, mine_mem, if_neg ?_⟩) worker_eq
        rintro rfl
        exact away worker_eq

end

/-! ## New and deleted operations -/

/-- A new operation is inserted. -/
theorem Orderly.insert (orderly : Orderly steady w)
    (inserted : w.db.insertOperation row = some db) (named : row.Named) :
    Orderly steady (w.insert worker row db) := by
  obtain ⟨-, -, fresh, rows, free⟩ := Database.insertOperation_inv inserted
  have found_new : db.operations.get? row.id = some row := by
    rw [rows, if_pos rfl]
  have found_old : ∀ {id current}, w.db.operations.get? id = some current →
      db.operations.get? id = some current := Database.insertOperation_kept inserted
  have unwritten : ∀ entry ∈ w.written, entry.2.id ≠ row.id := by
    intro entry member same
    obtain ⟨current, found, -⟩ := orderly.current entry member
    rw [same, fresh] at found
    cases found
  have unmade : ∀ entry ∈ w.created, entry.2.id ≠ row.id := by
    intro entry member same
    obtain ⟨current, found⟩ := orderly.present entry member
    rw [same, fresh] at found
    cases found
  constructor
  · intro id current found
    rw [show (w.insert worker row db).db = db from rfl, rows] at found
    split at found
    · cases found
      exact named
    · exact orderly.named id current found
  · intro first first_mem second second_mem same_id same_revision
    obtain _ | ⟨_, first_mem⟩ := first_mem
    · obtain _ | ⟨_, second_mem⟩ := second_mem
      · rfl
      · exact absurd same_id.symm (unwritten second second_mem)
    · obtain _ | ⟨_, second_mem⟩ := second_mem
      · exact absurd same_id (unwritten first first_mem)
      · exact orderly.unique first first_mem second second_mem same_id same_revision
  · intro entry member
    obtain _ | ⟨_, member⟩ := member
    · exact ⟨row, found_new, rfl, Nat.le_refl _, fun past => past, fun _ _ => rfl⟩
    · obtain ⟨current, found, rest⟩ := orderly.current entry member
      exact ⟨current, found_old found, rest⟩
  · intro id current found active
    rw [show (w.insert worker row db).db = db from rfl, rows] at found
    split at found
    · cases found
      exact ⟨worker, .head _⟩
    · obtain ⟨writer, written⟩ := orderly.authored id current found active
      exact ⟨writer, .tail _ written⟩
  · intro steadily flight member unapplied intime
    have flying := orderly.flights steadily flight member unapplied intime
    exact { flying with written := .tail _ flying.written, current := found_old flying.current }
  · exact orderly.called
  · intro first first_mem second second_mem same
    obtain _ | ⟨_, first_mem⟩ := first_mem
    · obtain _ | ⟨_, second_mem⟩ := second_mem
      · rfl
      · exact absurd same.symm (unmade second second_mem)
    · obtain _ | ⟨_, second_mem⟩ := second_mem
      · exact absurd same (unmade first first_mem)
      · exact orderly.created first first_mem second second_mem same
  · intro entry member
    obtain _ | ⟨_, member⟩ := member
    · exact ⟨row, found_new⟩
    · obtain ⟨current, found⟩ := orderly.present entry member
      exact ⟨current, found_old found⟩
  · intro call member
    obtain ⟨first, created, same⟩ := orderly.callers call member
    exact ⟨first, .tail _ created, same⟩
  · exact orderly.once
  · intro identity member
    obtain ⟨current, current_mem, rest⟩ := orderly.upstream identity member
    exact ⟨current, get?_mem (found_old (get?_of_mem current_mem)), rest⟩
  · exact fun call called => .tail _ (orderly.asked call called)
  · intro id other first second first_found second_found first_active second_active actor key keyed
    rw [show (w.insert worker row db).db = db from rfl, rows] at first_found second_found
    split at first_found
    · rename_i first_new
      cases first_found
      split at second_found
      · next second_new => exact first_new.symm.trans second_new
      · exact absurd key.symm ((free second (get?_mem second_found) second_active).1 keyed
          actor.symm)
    · split at second_found
      · cases second_found
        exact absurd key ((free first (get?_mem first_found) first_active).1 (key ▸ keyed) actor)
      · exact orderly.keyed first_found second_found first_active second_active actor key keyed

theorem Standing.Holds.insert (inserted : w.db.insertOperation row = some db)
    (apart : other ≠ worker ∨ ∀ row, standing ≠ .started row)
    (holds : standing.Holds steady other w) :
    standing.Holds steady other (w.insert worker row db) := by
  have found_old : ∀ {id current}, w.db.operations.get? id = some current →
      db.operations.get? id = some current := Database.insertOperation_kept inserted
  refine holds.transfer id (fun _ => .tail _) ?_ ?_ ?_ ?_ fun _ sent => ⟨.tail _ sent.1, sent.2⟩
  · intro mine stands
    obtain different | never := apart
    · exact @last_write_other w worker row other db different mine.id
    · exact absurd stands (never mine)
  · exact fun mine ⟨⟨first, made, same⟩, calls⟩ => ⟨⟨first, .tail _ made, same⟩, calls⟩
  · intro _ mine _ _ held expiry leased intime
    obtain ⟨current, active⟩ := held expiry leased intime
    exact ⟨found_old current, active⟩
  · intro _ _ mine _ gone
    refine { gone with settled := gone.settled.imp id ?_ }
    exact fun ⟨current, found, past⟩ => ⟨current, found_old found, past⟩

/-- An operation whose account is gone is deleted. -/
structure World.Deletes (steady : Bool) (w next : World) (worker : ℕ) (old new : Operation) :
    Prop where
  step : next = { w with db := next.db }
  operations : Table.Replaces w.db.operations next.db.operations old new
  may : w.MayWrite steady worker old
  inactive : new.active = false
  revision : new.revision = old.revision
  origin : new.origin = old.origin
  stage : new.stage = old.stage
  gone : steady = true → old.identity ∉ w.upstream

theorem Orderly.delete (orderly : Orderly steady w) (deletes : w.Deletes steady next worker old new)
    (grounded : w.Grounded worker) : Orderly steady next := by
  obtain ⟨step, operations, may, inactive, revision, origin, stage, gone⟩ := deletes
  have present := operations.present
  have id : new.id = old.id := operations.same_key
  have identity := Operation.identity_of_origin origin
  rw [step]
  refine { orderly with
    named := ?_, current := ?_, authored := ?_, flights := ?_, present := ?_, upstream := ?_,
    keyed := ?_ }
  · intro key row found
    obtain ⟨-, rfl⟩ | found := operations.earlier found
    · exact (orderly.named old.id old present).of_identity id identity
    · exact orderly.named key row found
  · intro entry member
    obtain ⟨row, found, facts⟩ := orderly.current entry member
    refine operations.later found facts fun ⟨same, le, past, _⟩ => ?_
    exact ⟨origin.trans same, revision ▸ le, fun entry_past => stage ▸ past entry_past,
      fun _ active => absurd active (by simp [inactive])⟩
  · intro key row found active
    obtain ⟨-, rfl⟩ | found := operations.earlier found
    · rw [inactive] at active
      cases active
    · exact orderly.authored key row found active
  · intro steadily flight member unapplied intime
    have flying := orderly.flights steadily flight member unapplied intime
    have other := orderly.undisturbed steadily may grounded present member unapplied intime
    exact { flying with current := (operations.get?_other other).trans flying.current }
  · intro entry member
    obtain ⟨row, found⟩ := orderly.present entry member
    obtain ⟨current, found, -⟩ :=
      operations.later (p := fun _ => True) found trivial fun _ => trivial
    exact ⟨current, found⟩
  · intro account member
    obtain ⟨row, row_mem, same, living, call⟩ := orderly.upstream account member
    have found := get?_of_mem row_mem
    by_cases named : row.id = old.id
    · rw [named, present] at found
      cases found
      exact ⟨new, get?_mem operations.get?_new, identity.trans same,
        fun steadily => absurd (same ▸ member) (gone steadily), id ▸ call⟩
    · exact ⟨row, get?_mem ((operations.get?_other named).trans found), same, living, call⟩
  · refine Keyed.replaces orderly.keyed operations (fun active => ?_) origin
    rw [inactive] at active
    cases active

theorem Standing.Holds.delete (orderly : Orderly steady w)
    (deletes : w.Deletes steady next worker old new) (different : other ≠ worker)
    (holds : standing.Holds steady other w) : standing.Holds steady other next := by
  obtain ⟨step, operations, may, _, _, origin, stage, gone⟩ := deletes
  have past : ∀ id, w.Past id → next.Past id :=
    fun id past => past.replaces operations fun old_past => stage ▸ old_past
  rw [step] at past ⊢
  refine holds.transfer id (fun _ => id) (fun _ _ => rfl) (fun _ => id) ?_
    (fun _ _ row _ gone => { gone with settled := gone.settled.imp id (past row.id) }) fun _ => id
  intro steadily row written started held expiry leased intime
  obtain ⟨current, active⟩ := held expiry leased intime
  refine ⟨(operations.get?_other fun same => ?_).trans current, active⟩
  rw [same, operations.present] at current
  cases current
  exact orderly.not_held steadily may different written started leased intime

end Jianmen.Provisioning
