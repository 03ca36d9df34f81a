import Mathlib.Data.Nat.Notation
import Mathlib.Logic.Relation
import Mathlib.Tactic.Common

/-!
# Workers on a shared state

A program makes calls on a state that other programs share; a call is atomic, and a program goes on
with its reply.  Workers run programs, one call of one worker at a time, and may crash between any
two calls.  What a worker may rely on is its *standing*, a fact about the shared state that only the
worker itself can end.  A standing says which calls are permitted, a reply leads to the next one,
and a program is safe if it makes permitted calls only.
-/

namespace Jianmen

open List

/-- A program that makes calls and returns a result. -/
inductive Program {Call : Type} (Reply : Call → Type) (α : Type) where
  | done (result : α)
  | call (action : Call) (next : Reply action → Program Reply α)

namespace Program

variable {Call : Type} {Reply : Call → Type} {α β : Type}

def bind (program : Program Reply α) (rest : α → Program Reply β) : Program Reply β :=
  match program with
  | .done result => rest result
  | .call action next => .call action fun reply => (next reply).bind rest

instance : Monad (Program Reply) where
  pure := .done
  bind := .bind

/-- One call. -/
def perform (action : Call) : Program Reply (Reply action) :=
  .call action .done

end Program

/-! ## Pools -/

/-- What calls of workers, given by their numbers, and the surroundings do to the shared state. -/
structure Workshop (σ : Type) {Call : Type} (Reply : Call → Type) where
  performs : ℕ → σ → (action : Call) → Reply action → σ → Prop
  surroundings : σ → σ → Prop

/-- A shared state and the programs of the workers that were started; a worker without program has
crashed. -/
structure Pool (σ : Type) {Call : Type} (Reply : Call → Type) (α : Type) where
  shared : σ
  workers : List (Option (Program Reply α))

namespace Pool

variable {σ : Type} {Call : Type} {Reply : Call → Type} {α : Type}

/-- The worker has the program. -/
def Runs (pool : Pool σ Reply α) (worker : ℕ) (program : Program Reply α) : Prop :=
  pool.workers[worker]? = some (some program)

/-- One step of a pool in which only some programs are started. -/
inductive Step (shop : Workshop σ Reply) (starts : Program Reply α → Prop) :
    Pool σ Reply α → Pool σ Reply α → Prop where
  | start {pool : Pool σ Reply α} {program : Program Reply α} (known : starts program) :
      Step shop starts pool { pool with workers := pool.workers ++ [some program] }
  | act {pool : Pool σ Reply α} {worker : ℕ} {action : Call} {next : Reply action → Program Reply α}
      {reply : Reply action} {shared : σ} (runs : pool.Runs worker (.call action next))
      (performs : shop.performs worker pool.shared action reply shared) :
      Step shop starts pool ⟨shared, pool.workers.set worker (some (next reply))⟩
  | crash {pool : Pool σ Reply α} {worker : ℕ} :
      Step shop starts pool { pool with workers := pool.workers.set worker none }
  | surroundings {pool : Pool σ Reply α} {shared : σ}
      (changed : shop.surroundings pool.shared shared) :
      Step shop starts pool { pool with shared := shared }

/-- Every pool that steps lead to from a state without workers. -/
def Reachable (shop : Workshop σ Reply) (starts : Program Reply α → Prop) (initial : σ)
    (pool : Pool σ Reply α) : Prop :=
  Relation.ReflTransGen (Step shop starts) ⟨initial, []⟩ pool

/-- A pool that some calls lead to is one that all calls lead to. -/
theorem Reachable.mono {shop larger : Workshop σ Reply} {starts : Program Reply α → Prop}
    {initial : σ} {pool : Pool σ Reply α} (reachable : Reachable shop starts initial pool)
    (performs : ∀ {worker before action reply after},
      shop.performs worker before action reply after →
      larger.performs worker before action reply after)
    (surroundings : ∀ {before after}, shop.surroundings before after →
      larger.surroundings before after) : Reachable larger starts initial pool := by
  refine Relation.ReflTransGen.mono (fun before after step => ?_) _ _ reachable
  cases step with
  | start known => exact .start known
  | act runs performed => exact .act runs (performs performed)
  | crash => exact .crash
  | surroundings changed => exact .surroundings (surroundings changed)

/-- What every call and the surroundings keep holds in every pool. -/
theorem Reachable.shared {shop : Workshop σ Reply} {starts : Program Reply α → Prop} {initial : σ}
    {pool : Pool σ Reply α} (reachable : Reachable shop starts initial pool)
    {invariant : σ → Prop} (initially : invariant initial)
    (performs : ∀ {worker before action reply after}, invariant before →
      shop.performs worker before action reply after → invariant after)
    (surroundings : ∀ {before after}, invariant before → shop.surroundings before after →
      invariant after) : invariant pool.shared := by
  induction reachable with
  | refl => exact initially
  | tail _ step ih =>
    cases step with
    | start | crash => exact ih
    | act _ performed => exact performs ih performed
    | surroundings changed => exact surroundings ih changed

/-! ### Undisturbed runs -/

/-- Run a program on its own, with a function that answers its calls. -/
def drive (answer : ℕ → σ → (action : Call) → Reply action × σ) (worker : ℕ) :
    Program Reply α → σ → α × σ
  | .done result, shared => (result, shared)
  | .call action next, shared =>
    let (reply, after) := answer worker shared action
    drive answer worker (next reply) after

/-- A new worker runs its program on its own. -/
def serve (answer : ℕ → σ → (action : Call) → Reply action × σ) (pool : Pool σ Reply α)
    (program : Program Reply α) : Pool σ Reply α :=
  let (result, shared) := drive answer pool.workers.length program pool.shared
  ⟨shared, pool.workers ++ [some (.done result)]⟩

/-- The next call of a worker is answered. -/
def act (answer : ℕ → σ → (action : Call) → Reply action × σ) (pool : Pool σ Reply α)
    (worker : ℕ) : Pool σ Reply α :=
  match pool.workers[worker]? with
  | some (some (.call action next)) =>
    let (reply, shared) := answer worker pool.shared action
    ⟨shared, pool.workers.set worker (some (next reply))⟩
  | _ => pool

variable {shop : Workshop σ Reply} {starts : Program Reply α → Prop} {initial : σ}
  {answer : ℕ → σ → (action : Call) → Reply action × σ} {pool : Pool σ Reply α}
  {program : Program Reply α}

theorem Reachable.surroundings (reachable : Reachable shop starts initial pool) {shared : σ}
    (changed : Relation.ReflTransGen shop.surroundings pool.shared shared) :
    Reachable shop starts initial { pool with shared := shared } := by
  induction changed with
  | refl => exact reachable
  | tail _ step ih => exact ih.tail (.surroundings step)

/-- An answer is a call that the surroundings may go before. -/
def Answers (shop : Workshop σ Reply) (answer : ℕ → σ → (action : Call) → Reply action × σ) :
    Prop :=
  ∀ worker shared action, ∃ between, Relation.ReflTransGen shop.surroundings shared between ∧
    shop.performs worker between action (answer worker shared action).1
      (answer worker shared action).2

/-- Workers take turns. -/
theorem Reachable.turns (answers : Answers shop answer)
    (reachable : Reachable shop starts initial pool) (workers : List ℕ) :
    Reachable shop starts initial (workers.foldl (act answer) pool) := by
  induction workers generalizing pool with
  | nil => exact reachable
  | cons worker rest ih =>
    refine ih ?_
    unfold act
    split
    · rename_i action next runs
      obtain ⟨_, changed, performs⟩ := answers worker pool.shared action
      exact (reachable.surroundings changed).tail (.act runs performs)
    · exact reachable

theorem Reachable.drive (answers : Answers shop answer)
    (reachable : Reachable shop starts initial pool) {worker : ℕ}
    (runs : pool.Runs worker program) :
    Reachable shop starts initial ⟨(drive answer worker program pool.shared).2,
      pool.workers.set worker (some (.done (drive answer worker program pool.shared).1))⟩ := by
  induction program generalizing pool with
  | done result =>
    obtain ⟨inside, same⟩ := List.getElem?_eq_some_iff.mp runs
    change Reachable shop starts initial ⟨pool.shared, pool.workers.set worker (some (.done result))⟩
    rw [← same, set_getElem_self]
    exact reachable
  | call action _ ih =>
    obtain ⟨_, changed, performs⟩ := answers worker pool.shared action
    have acted := (reachable.surroundings changed).tail (.act runs performs)
    have inside := (List.getElem?_eq_some_iff.mp runs).1
    have driven := ih _ acted (getElem?_set_self inside)
    rw [set_set] at driven
    exact driven

theorem Reachable.serve (answers : Answers shop answer)
    (reachable : Reachable shop starts initial pool)
    (known : starts program) : Reachable shop starts initial (serve answer pool program) := by
  have runs : Runs { pool with workers := pool.workers ++ [some program] } pool.workers.length
      program := by
    simp [Runs]
  have driven := Reachable.drive answers (reachable.tail (.start known)) runs
  rw [set_append_right _ _ (Nat.le_refl _), Nat.sub_self] at driven
  exact driven

end Pool

/-! ## Standings -/

/-- A discipline of calls: which ones a standing permits, and where replies lead. -/
structure Discipline {Call : Type} (Reply : Call → Type) (Standing : Type) where
  permits : Standing → Call → Prop
  /-- What a reply to a permitted call can be. -/
  possible : Standing → (action : Call) → Reply action → Prop
  after : Standing → (action : Call) → Reply action → Standing

namespace Discipline

variable {σ : Type} {Call : Type} {Reply : Call → Type} {α β : Type} {Standing : Type}

/-- The program makes permitted calls only, and ends with a result and a standing as they should
be. -/
def Safe (discipline : Discipline Reply Standing) (standing : Standing) :
    Program Reply α → (α → Standing → Prop) → Prop
  | .done result, ending => ending result standing
  | .call action next, ending =>
    discipline.permits standing action ∧ ∀ reply, discipline.possible standing action reply →
      discipline.Safe (discipline.after standing action reply) (next reply) ending

variable {discipline : Discipline Reply Standing} {standing : Standing} {program : Program Reply α}
  {pool : Pool σ Reply α}

theorem Safe.bind {rest : α → Program Reply β} {ending : β → Standing → Prop}
    (safe : discipline.Safe standing program fun result standing =>
      discipline.Safe standing (rest result) ending) :
    discipline.Safe standing (program >>= rest) ending := by
  induction program generalizing standing with
  | done result => exact safe
  | call _ _ ih =>
    exact ⟨safe.1, fun reply possible => ih reply (safe.2 reply possible)⟩

theorem Safe.mono
    {ending weaker : α → Standing → Prop} (safe : discipline.Safe standing program ending)
    (weaken : ∀ result standing, ending result standing → weaker result standing) :
    discipline.Safe standing program weaker := by
  induction program generalizing standing with
  | done result => exact weaken result standing safe
  | call _ _ ih =>
    exact ⟨safe.1, fun reply possible => ih reply (safe.2 reply possible)⟩

/-- What standings say about the shared state, in a way that a discipline keeps: a permitted call
keeps the invariant, leads its worker to the next standing and takes nothing from the others. -/
structure Sound (discipline : Discipline Reply Standing) (shop : Workshop σ Reply)
    (invariant : σ → Prop) (holds : Standing → ℕ → σ → Prop) : Prop where
  performs : ∀ {worker before action reply after standing}, invariant before →
    holds standing worker before → discipline.permits standing action →
    shop.performs worker before action reply after →
    invariant after ∧ discipline.possible standing action reply ∧
      holds (discipline.after standing action reply) worker after
  others : ∀ {worker before action reply after standing other own}, invariant before →
    holds standing worker before → discipline.permits standing action →
    shop.performs worker before action reply after → other ≠ worker → holds own other before →
    holds own other after
  surroundings : ∀ {before after}, invariant before → shop.surroundings before after →
    invariant after ∧ ∀ {standing worker}, holds standing worker before →
      holds standing worker after

variable {shop : Workshop σ Reply} {invariant : σ → Prop} {holds : Standing → ℕ → σ → Prop}
  {starts : Program Reply α → Prop} {initial : σ} {newcomer : Standing}
  {ending : α → Standing → Prop}

/-- Every worker of the pool is safe in some standing that holds. -/
def Settled (discipline : Discipline Reply Standing) (holds : Standing → ℕ → σ → Prop)
    (ending : α → Standing → Prop) (pool : Pool σ Reply α) : Prop :=
  ∀ worker program, pool.Runs worker program → ∃ standing, holds standing worker pool.shared ∧
    discipline.Safe standing program ending

/-- A worker goes on with another program, the shared state changes, and every standing that is not
of this worker stays. -/
theorem Settled.set {shared : σ} {worker : ℕ}
    {program : Option (Program Reply α)} (settled : discipline.Settled holds ending pool)
    (own : ∀ next, program = some next → ∃ standing, holds standing worker shared ∧
      discipline.Safe standing next ending)
    (others : ∀ {standing other}, other ≠ worker → holds standing other pool.shared →
      holds standing other shared) :
    discipline.Settled holds ending ⟨shared, pool.workers.set worker program⟩ := by
  intro other next runs
  simp only [Pool.Runs, getElem?_set] at runs
  split at runs
  · rename_i same
    split at runs
    · obtain rfl := same
      exact own next (Option.some.inj runs)
    · cases runs
  · rename_i different
    obtain ⟨standing, held, safe⟩ := settled other next runs
    exact ⟨standing, others (Ne.symm different) held, safe⟩

/-- A pool that starts safe programs only keeps its invariant, and all its workers are safe.  A
newcomer's standing holds for all workers that were not started yet. -/
theorem Sound.reachable (sound : discipline.Sound shop invariant holds)
    (initially : invariant initial)
    (safe : ∀ program, starts program → discipline.Safe newcomer program ending)
    (fresh : ∀ worker, holds newcomer worker initial)
    (reachable : Pool.Reachable shop starts initial pool) :
    invariant pool.shared ∧ discipline.Settled holds ending pool ∧
      ∀ worker, pool.workers.length ≤ worker → holds newcomer worker pool.shared := by
  induction reachable with
  | refl =>
    refine ⟨initially, fun worker program runs => ?_, fun worker _ => fresh worker⟩
    simp [Pool.Runs] at runs
  | @tail before after _ step ih =>
    obtain ⟨kept, settled, newcomers⟩ := ih
    cases step with
    | @start program known =>
      refine ⟨kept, fun worker other runs => ?_, fun worker later => ?_⟩
      · rw [Pool.Runs, getElem?_append] at runs
        split at runs
        · exact settled worker other runs
        rename_i late
        obtain rfl : program = other := by
          rw [getElem?_singleton] at runs
          split at runs
          · exact Option.some.inj (Option.some.inj runs)
          · cases runs
        exact ⟨newcomer, newcomers worker (Nat.le_of_not_lt late), safe program known⟩
      · rw [length_append] at later
        exact newcomers worker (Nat.le_trans (Nat.le_add_right _ _) later)
    | @act worker action next reply shared runs performs =>
      obtain ⟨standing, held, permitted, continues⟩ := settled worker _ runs
      obtain ⟨still, possible, reached⟩ := sound.performs kept held permitted performs
      have others : ∀ {standing other}, other ≠ worker → holds standing other before.shared →
          holds standing other shared :=
        fun different own => sound.others kept held permitted performs different own
      have started : worker < before.workers.length := (List.getElem?_eq_some_iff.mp runs).1
      refine ⟨still, settled.set (fun _ same => ?_) others, fun other later => ?_⟩
      · cases same
        exact ⟨_, reached, continues reply possible⟩
      · rw [length_set] at later
        exact others (Nat.ne_of_gt (Nat.lt_of_lt_of_le started later)) (newcomers other later)
    | @crash worker =>
      refine ⟨kept, settled.set (fun _ none => nomatch none) fun _ held => held,
        fun other later => ?_⟩
      rw [length_set] at later
      exact newcomers other later
    | @surroundings shared changed =>
      obtain ⟨still, stable⟩ := sound.surroundings kept changed
      refine ⟨still, fun worker program runs => ?_, fun worker later =>
        stable (newcomers worker later)⟩
      obtain ⟨standing, held, safe⟩ := settled worker program runs
      exact ⟨standing, stable held, safe⟩

end Discipline
end Jianmen
