import Jianmen.Provisioning.Accounts
import Jianmen.Provisioning.Programs

/-!
# Workers, the database and the upstream server

The programs of the service run side by side on one database and one upstream server.  A call on the
database commits or does not, and its caller may not learn which.  A transition is two calls: an
update under a fence, and a look at the row by its id, which may find what others wrote since. A
statement that creates an account takes effect while its call runs and before its deadline, or
never; it stays under way when its caller crashes.  Accounts and instances may be changed through
the store all the while.
-/

namespace Jianmen.Provisioning

/-- An account on an upstream server. -/
structure Identity where
  instanceId : String
  username : String
  host : String
  deriving DecidableEq

/-- The upstream account of an operation. -/
def Operation.identity (operation : Operation) : Identity :=
  { operation with }

/-- A statement under way that creates the account of an operation. -/
structure Flight where
  worker : ℕ
  operation : Operation
  deadline : Time
  applied : Bool := false
  deriving DecidableEq

/-- The row that a call finds under an idempotency key. -/
def Action.finds : (action : Action) → Reply action → Option Operation
  | .lookup .., reply => Option.join reply
  | _, _ => none

/-- The call was to insert an operation, and it is not known to be there. -/
def Action.fails : (action : Action) → Reply action → Bool
  | .create _, reply => Option.isNone reply
  | _, _ => false

/-- The database, the clock, the accounts on upstream servers and the statements under way; and, as
a history with the latest first, which worker wrote which row, which rows were new, for which rows
an account was asked for, and all calls with their replies. -/
structure World where
  db : Database := {}
  clock : Time := 0
  upstream : List Identity := []
  flights : List Flight := []
  written : List (ℕ × Operation) := []
  created : List (ℕ × Operation) := []
  calls : List (ℕ × Operation) := []
  history : List (ℕ × Σ action, Reply action) := []

namespace World

/-- A worker writes a row. -/
def write (w : World) (worker : ℕ) (row : Operation) (db : Database) : World :=
  { w with db := db, written := (worker, row) :: w.written }

def insert (w : World) (worker : ℕ) (row : Operation) (db : Database) : World :=
  { w.write worker row db with created := (worker, row) :: w.created }

/-- A call of a worker has been answered. -/
def record (w : World) (worker : ℕ) (action : Action) (reply : Reply action) : World :=
  { w with history := (worker, ⟨action, reply⟩) :: w.history }

/-- The rows that a worker has found under idempotency keys. -/
def found (w : World) (worker : ℕ) : List Operation :=
  (w.history.filter (·.1 == worker)).filterMap fun call => call.2.1.finds call.2.2

/-- The last call of a worker was to insert an operation and came to nothing. -/
def lost (w : World) (worker : ℕ) : Bool :=
  (w.history.find? (·.1 == worker)).any fun call => call.2.1.fails call.2.2

/-- The row of an operation that a worker wrote last. -/
def last (w : World) (worker : ℕ) (id : String) : Option Operation :=
  (w.written.find? fun entry => entry.1 == worker && entry.2.id == id).map Prod.snd

/-- A statement is sent. -/
def send (w : World) (worker : ℕ) (operation : Operation) (deadline : Time) : World :=
  { w with
    flights := ⟨worker, operation, deadline, false⟩ :: w.flights
    calls := (worker, operation) :: w.calls }

/-- The call of a worker ends. -/
def land (w : World) (worker : ℕ) : World :=
  { w with flights := w.flights.filter fun flight => flight.worker != worker }

/-- A statement under way takes effect. -/
def apply (w : World) (flight : Flight) : World :=
  { w with
    upstream := flight.operation.identity :: w.upstream
    flights := w.flights.map fun other => if other = flight then { flight with applied := true }
      else other }

/-- An account is dropped. -/
def drop (w : World) (identity : Identity) : World :=
  { w with upstream := w.upstream.filter (· != identity) }

/-- What a call does.  A call on the database that commits may still have no reply; its statements
run at times before it commits. -/
def performs (codec : Codec) (worker : ℕ) (w : World) :
    (action : Action) → Reply action → World → Prop
  | .lookup actorId key, reply, next => next = w ∧
      (reply = none ∨ reply = some (w.db.databaseProvisioningOperationByIdempotency actorId key))
  | .create input, reply, next => (next = w ∧ reply = none) ∨ ∃ now later row window db,
      Database.createDatabaseProvisioningOperation codec.instanceProof w.db now later input =
        .ok (db, row, window) ∧ now ≤ later ∧ later ≤ w.clock ∧ next = w.insert worker row db ∧
      (reply = some row ∨ reply = none)
  | .transition expected move, reply, next => (next = w ∧ reply = false) ∨ ∃ now row db,
      w.db.transitionDatabaseProvisioningOperation now expected move = .ok (db, true) ∧
      now ≤ w.clock ∧ db.operation? expected.id = some row ∧ next = w.write worker row db
  | .operation id, reply, next => next = w ∧ (reply = none ∨ reply = w.db.operation? id)
  | .claim expected lease, reply, next => (next = w ∧ reply = none) ∨ ∃ now later row window db,
      w.db.claimDatabaseProvisioningOperation now later expected lease =
        .ok (db, some (row, window)) ∧ now ≤ later ∧ later ≤ w.clock ∧
      next = w.write worker row db ∧ (reply = some row ∨ reply = none)
  | .renew expected lease, reply, next => (next = w ∧ reply = none) ∨
      ∃ started now later row window db,
      w.db.renewDatabaseProvisioningOperation now later expected lease =
        .ok (db, some (row, window)) ∧ started ≤ now ∧ now ≤ later ∧ later ≤ w.clock ∧
      next = w.write worker row db ∧ (reply = some (started, row, window) ∨ reply = none)
  | .activate expected, reply, next => (next = w ∧ reply = none) ∨
      ∃ now later accountId account row db,
      w.db.activateDatabaseProvisioningOperation now later accountId expected =
        .ok (db, some account) ∧ now ≤ later ∧ later ≤ w.clock ∧
      db.operation? expected.id = some row ∧ next = w.write worker row db ∧
      (reply = some account ∨ reply = none)
  | .account operationId, reply, next => next = w ∧
      (reply = none ∨ reply = w.db.provisionedDatabaseAccountByOperation operationId)
  | .beginDeprovision accountId lease, reply, next => (next = w ∧ reply = none) ∨
      ∃ now result managed db,
      w.db.beginDatabaseDeprovision now accountId lease = .ok (db, result, managed) ∧
      now ≤ w.clock ∧
      (next = match result with
        | none => w
        | some row => w.write worker row db) ∧
      (reply = some (result, managed) ∨ reply = none)
  | .completeDeprovision expected accountId, reply, next => (next = w ∧ reply = false) ∨
      ∃ now later resources db,
      w.db.completeDatabaseDeprovision now later resources expected accountId = .ok (db, true) ∧
      now ≤ later ∧ later ≤ w.clock ∧ next = { w with db := db }
  | .list staleAfter _, reply, next => next = w ∧ (reply = none ∨ ∃ now operations,
      reply = some operations ∧ ∀ row ∈ operations, row ∈ w.db.operations.rows ∧
        Database.executable now staleAfter row = true)
  | .administrator instanceId adminAccountId, reply, next => next = w ∧
      ∀ target admin, reply = some (target, admin) →
        w.db.instances.get? instanceId = some target ∧
        w.db.accounts.get? adminAccountId = some admin ∧
        w.db.activeDatabaseAccountScope admin = true ∧ admin.instanceId = instanceId
  | .clock, reply, next => next = w ∧ reply = w.clock
  | .proceed, _, next | .random, _, next | .resolveAccountHost, _, next
  | .grantAccount _, _, next => next = w
  | .createAccount operation deadline, _, next => next = w.send worker operation deadline
  | .createResult _, _, next => next = w.land worker
  | .dropAccount operation, reply, next => next = w.drop operation.identity ∨
      (next = w ∧ reply = false)

/-- What happens besides: time passes, a statement takes effect, an account goes away, and accounts
and instances are changed through the store. -/
inductive Surroundings (w : World) : World → Prop where
  | tick {time : Time} (later : w.clock ≤ time) : Surroundings w { w with clock := time }
  | effect {flight : Flight} (sent : flight ∈ w.flights) (new : flight.applied = false)
      (intime : w.clock ≤ flight.deadline) : Surroundings w (w.apply flight)
  | vanish {identity : Identity} : Surroundings w (w.drop identity)
  | addAccount {id instanceId username password : String} {expiresAt : Option Time}
      {db : Database}
      (committed : w.db.addDatabaseAccount id instanceId username password expiresAt = .ok db) :
      Surroundings w { w with db := db }
  | updateAccount {id username password : String} {expiresAt : Option Time} {status : String}
      {db : Database}
      (committed : w.db.updateDatabaseAccount id username password expiresAt status = .ok db) :
      Surroundings w { w with db := db }
  | deleteAccount {id : String} {db : Database}
      (committed : w.db.deleteDatabaseAccount id = .ok db) : Surroundings w { w with db := db }
  | addInstance {created : Instance} {db : Database}
      (committed : w.db.addDatabaseInstance created = .ok db) : Surroundings w { w with db := db }
  | updateInstance {id protocol endpoint status : String} {db : Database}
      (committed : w.db.updateDatabaseInstance id protocol endpoint status = .ok db) :
      Surroundings w { w with db := db }
  | deleteInstance {id : String} {db : Database}
      (committed : w.db.deleteDatabaseInstance id = .ok db) : Surroundings w { w with db := db }

/-- Who has just written `create_started` and gets the row back gets what it wrote, and a statement
said not to have been carried out has not taken effect. -/
def Steady (w : World) (worker : ℕ) : (action : Action) → Reply action → Prop
  | .operation id, reply => ∀ mine row, w.last worker id = some mine →
      mine.stage = .createStarted → reply = some row → row = mine
  | .createResult _, reply => reply.1 = .notSent ∨ reply.1 = .notCreated →
      ∀ flight ∈ w.flights, flight.worker = worker → flight.applied = false
  | _, _ => True

/-- The calls of all programs, or only the steady ones, and what happens besides. -/
def workshop (codec : Codec) (steady : Bool) : Workshop World Reply where
  performs worker w action reply next := (steady = true → w.Steady worker action reply) ∧
    ∃ after, performs codec worker w action reply after ∧ next = after.record worker action reply
  surroundings := Surroundings

end World

/-- How a program ended. -/
inductive Outcome where
  | provision (request : Request) (result : Except ProvisioningError Provisioned)
  | deprovision (accountId : String) (error : Option DeprovisionError)
  | reconcile (finished : ℕ)

/-- The programs workers run, each with a service of its own. -/
inductive Started (codec : Codec) (validHost : String → Bool) : Job Outcome → Prop where
  | provision (s : Service) (request : Request) : Started codec validHost
      (s.provision codec request >>= fun result => pure (.provision request result))
  | deprovision (s : Service) (accountId : String) : Started codec validHost
      (s.deprovision validHost accountId >>= fun error => pure (.deprovision accountId error))
  | reconcile (s : Service) (limit : ℕ) : Started codec validHost
      (s.reconcile validHost limit >>= fun finished => pure (.reconcile finished))

/-- The pools that workers lead to from empty tables. -/
abbrev Reachable (codec : Codec) (validHost : String → Bool)
    (pool : Pool World Reply Outcome) : Prop :=
  Pool.Reachable (World.workshop codec false) (Started codec validHost) {} pool

/-- The pools that workers lead to by steady calls. -/
abbrev SteadilyReachable (codec : Codec) (validHost : String → Bool)
    (pool : Pool World Reply Outcome) : Prop :=
  Pool.Reachable (World.workshop codec true) (Started codec validHost) {} pool

namespace World

variable {codec : Codec} {worker : ℕ} {w next : World} {action : Action} {reply : Reply action}

/-- A call leaves the database as it is or commits a transaction. -/
theorem performs_commits (performed : performs codec worker w action reply next) :
    next.db = w.db ∨ Database.Commits codec.instanceProof w.db next.db := by
  cases action with
  | lookup | operation | account | list | administrator | clock =>
    exact .inl (congrArg World.db performed.1)
  | proceed | random | resolveAccountHost | grantAccount =>
    exact .inl (congrArg World.db performed)
  | createAccount operation deadline =>
    obtain rfl : next = w.send worker operation deadline := performed
    exact .inl rfl
  | createResult operation =>
    obtain rfl : next = w.land worker := performed
    exact .inl rfl
  | dropAccount =>
    obtain rfl | ⟨rfl, -⟩ := performed
    · exact .inl rfl
    · exact .inl rfl
  | create =>
    obtain ⟨rfl, -⟩ | ⟨now, later, row, window, db, committed, -, -, rfl, -⟩ := performed
    · exact .inl rfl
    · exact .inr (.create committed)
  | transition expected =>
    obtain ⟨rfl, -⟩ | ⟨now, row, db, committed, -, -, rfl⟩ := performed
    · exact .inl rfl
    · exact .inr (.transition committed)
  | claim expected lease =>
    obtain ⟨rfl, -⟩ | ⟨now, later, row, window, db, committed, -, -, rfl, -⟩ := performed
    · exact .inl rfl
    · exact .inr (.claim committed)
  | renew expected lease =>
    obtain ⟨rfl, -⟩ | ⟨_, now, later, row, window, db, committed, -, -, -, rfl, -⟩ :=
      performed
    · exact .inl rfl
    · exact .inr (.renew committed)
  | activate expected =>
    obtain ⟨rfl, -⟩ | ⟨now, later, accountId, account, row, db, committed, -, -, -, rfl, -⟩ :=
      performed
    · exact .inl rfl
    · exact .inr (.activate committed)
  | beginDeprovision accountId lease =>
    obtain ⟨rfl, -⟩ | ⟨now, result, _, db, committed, -, rfl, -⟩ := performed
    · exact .inl rfl
    · cases result with
      | none => exact .inl rfl
      | some row => exact .inr (.beginDeprovision committed)
  | completeDeprovision expected accountId =>
    obtain ⟨rfl, -⟩ | ⟨now, later, _, db, committed, -, -, rfl⟩ := performed
    · exact .inl rfl
    · exact .inr (.completeDeprovision committed)

theorem surroundings_commits (changed : Surroundings w next) :
    next.db = w.db ∨ Database.Commits codec.instanceProof w.db next.db := by
  cases changed with
  | tick | effect | vanish => exact .inl rfl
  | addAccount committed => exact .inr (.addAccount committed)
  | updateAccount committed => exact .inr (.updateAccount committed)
  | deleteAccount committed => exact .inr (.deleteAccount committed)
  | addInstance committed => exact .inr (.addInstance committed)
  | updateInstance committed => exact .inr (.updateInstance committed)
  | deleteInstance committed => exact .inr (.deleteInstance committed)

/-- Accounts and instances are changed without touching an operation. -/
theorem Surroundings.operations (changed : Surroundings w next) :
    next.db.operations = w.db.operations := by
  cases changed with
  | tick | effect | vanish => rfl
  | addAccount committed =>
    simp only [Database.addDatabaseAccount] at committed
    split at committed
    · cases committed
    split at committed
    · cases committed
    split at committed
    · cases committed
    split at committed
    · rename_i inserted
      rw [← Except.ok.inj committed]
      exact (Database.createAccount_inv inserted).1
    · cases committed
  | updateAccount committed =>
    simp only [Database.updateDatabaseAccount] at committed
    split at committed
    · cases committed
    split at committed
    · cases committed
    split at committed
    · cases committed
    split at committed
    · cases committed
    rw [← Except.ok.inj committed]
  | deleteAccount committed =>
    simp only [Database.deleteDatabaseAccount] at committed
    split at committed
    · cases committed
    split at committed
    · cases committed
    split at committed
    · cases committed
    rw [← Except.ok.inj committed]
  | addInstance committed =>
    simp only [Database.addDatabaseInstance] at committed
    split at committed
    · rw [← Except.ok.inj committed]
    · cases committed
  | updateInstance committed | deleteInstance committed =>
    simp only [Database.updateDatabaseInstance, Database.deleteDatabaseInstance] at committed
    split at committed
    · cases committed
    split at committed
    · cases committed
    rw [← Except.ok.inj committed]

end World
end Jianmen.Provisioning
