import Mathlib.Data.Nat.Notation
import Mathlib.Logic.Relation
import Mathlib.Tactic.Common

/-!
# Loops that leave through a return

An unbounded loop whose body either goes round again with a new state or leaves with a result.
The loop is run on an explicit amount of fuel, so that it evaluates; a measure that drops on
every further pass supplies enough of it.  `run` takes its fuel from such a measure, and
`run_invariant` is then total correctness: the fallback result is never returned.
-/

namespace Jianmen.Loop

variable {σ ρ : Type*}

/-- One pass through a loop body. -/
inductive Pass (σ ρ : Type*) where
  /-- Go round again from a new state. -/
  | again (state : σ)
  /-- Leave the loop with a result. -/
  | leave (result : ρ)

/-- Run a loop body for at most `fuel` passes. -/
def iterate (body : σ → Pass σ ρ) : ℕ → σ → Option ρ
  | 0, _ => none
  | fuel + 1, state =>
    match body state with
    | .again next => iterate body fuel next
    | .leave result => some result

/-- Every further pass from a state inside lowers the measure. -/
def Decreases (inside : σ → Prop) (body : σ → Pass σ ρ) (measure : σ → ℕ) : Prop :=
  ∀ state next, inside state → body state = .again next → measure next < measure state

/-- Run a loop with the fuel its measure allows. -/
def run (body : σ → Pass σ ρ) (measure : σ → ℕ) (fallback : ρ) (state : σ) : ρ :=
  (iterate body (measure state + 1) state).getD fallback

variable {body : σ → Pass σ ρ} {inside : σ → Prop} {measure : σ → ℕ} {fuel : ℕ} {result : ρ}

theorem iterate_isSome (decreases : Decreases inside body measure)
    (again : ∀ state next, inside state → body state = .again next → inside next) {state : σ}
    (initially : inside state) (enough : measure state < fuel) :
    (iterate body fuel state).isSome := by
  induction fuel generalizing state with
  | zero => omega
  | succ fuel ih =>
    cases pass : body state with
    | leave => simp [iterate, pass]
    | again next =>
      have lower : measure next < fuel := by
        have := decreases state next initially pass
        omega
      simpa [iterate, pass] using ih (again state next initially pass) lower

theorem iterate_invariant {outside : ρ → Prop}
    (again : ∀ state next, inside state → body state = .again next → inside next)
    (leave : ∀ state result, inside state → body state = .leave result → outside result) {state : σ}
    (initially : inside state)
    (execution : iterate body fuel state = some result) : outside result := by
  induction fuel generalizing state with
  | zero => simp [iterate] at execution
  | succ fuel ih =>
    cases pass : body state with
    | leave last =>
      simp only [iterate, pass, Option.some.injEq] at execution
      exact execution ▸ leave state last initially pass
    | again next =>
      simp only [iterate, pass] at execution
      exact ih (again state next initially pass) execution

theorem iterate_le {more : ℕ} {state : σ}
    (execution : iterate body fuel state = some result) (enough : fuel ≤ more) :
    iterate body more state = some result := by
  induction fuel generalizing state more with
  | zero => simp [iterate] at execution
  | succ fuel ih =>
    obtain ⟨more, rfl⟩ := Nat.exists_eq_succ_of_ne_zero (Nat.ne_of_gt (Nat.lt_of_lt_of_le
      (Nat.succ_pos fuel) enough))
    rw [iterate] at execution ⊢
    split at execution
    · exact ih execution (Nat.le_of_succ_le_succ enough)
    · exact execution

/-- A loop that leaves at once. -/
theorem run_leave {fallback : ρ} {state : σ} (pass : body state = .leave result) :
    run body measure fallback state = result := by
  simp [run, iterate, pass]

/-- A loop that goes round. -/
theorem run_again {fallback : ρ} {state next : σ}
    (decreases : Decreases (fun _ => True) body measure) (pass : body state = .again next) :
    run body measure fallback state = run body measure fallback next := by
  obtain ⟨result, execution⟩ := Option.isSome_iff_exists.mp
    (iterate_isSome decreases (fun _ _ _ _ => trivial) trivial (Nat.lt_succ_self (measure next)))
  have lower := decreases state next trivial pass
  have longer := iterate_le execution (show measure next + 1 ≤ measure state by omega)
  have here : iterate body (measure state + 1) state = some result := by
    rw [iterate, pass]
    exact longer
  rw [run, run, here, execution]

/-- Whatever every pass preserves and every exit turns into the postcondition holds of the
result of the loop. -/
theorem run_invariant {fallback : ρ} (decreases : Decreases inside body measure)
    {outside : ρ → Prop}
    (again : ∀ state next, inside state → body state = .again next → inside next)
    (leave : ∀ state result, inside state → body state = .leave result → outside result)
    {state : σ} (initially : inside state) : outside (run body measure fallback state) := by
  obtain ⟨result, execution⟩ := Option.isSome_iff_exists.mp
    (iterate_isSome decreases again initially (Nat.lt_succ_self (measure state)))
  have value : run body measure fallback state = result := by simp [run, execution]
  rw [value]
  exact iterate_invariant again leave initially execution

/-- A pass goes on from inside with a lower measure, or leaves with the postcondition. -/
def Proceeds (inside : σ → Prop) (outside : ρ → Prop) (measure : σ → ℕ) (state : σ) :
    Pass σ ρ → Prop
  | .again next => inside next ∧ measure next < measure state
  | .leave result => outside result

/-- `run_invariant` for a body whose passes are described in one go. -/
theorem run_proceeds {fallback : ρ} {outside : ρ → Prop}
    (proceeds : ∀ state, inside state → Proceeds inside outside measure state (body state))
    {state : σ} (initially : inside state) : outside (run body measure fallback state) := by
  refine run_invariant ?_ ?_ ?_ initially
  · intro state next within pass
    have step := proceeds state within
    rw [pass] at step
    exact step.2
  · intro state next within pass
    have step := proceeds state within
    rw [pass] at step
    exact step.1
  · intro state result within pass
    have step := proceeds state within
    rwa [pass] at step

/-! ## The states a loop passes through -/

/-- The states a loop passes through from a state on. -/
abbrev Visits (body : σ → Pass σ ρ) : σ → σ → Prop :=
  Relation.ReflTransGen fun state next => body state = .again next

/-- What a pass comes to, measure aside. -/
def Pass.Keeps (kept : σ → Prop) (post : ρ → Prop) : Pass σ ρ → Prop
  | .again next => kept next
  | .leave result => post result

/-- A loop that is known to end keeps what each of its passes keeps; a pass may rely on anything
that is known of the states the loop passes through. -/
theorem run_keeps {fallback : ρ} {outside post : ρ → Prop} {kept : σ → Prop} {start : σ}
    (proceeds : ∀ state, inside state → Proceeds inside outside measure state (body state))
    (keeps : ∀ state, Visits body start state → inside state → kept state →
      (body state).Keeps kept post)
    (initially : inside start) (kept_start : kept start) :
    post (run body measure fallback start) := by
  refine @run_proceeds _ _ body (fun state => Visits body start state ∧ inside state ∧ kept state)
    measure fallback post ?_ start ⟨.refl, initially, kept_start⟩
  rintro state ⟨visited, within, keeping⟩
  have step := proceeds state within
  have also := keeps state visited within keeping
  cases pass : body state with
  | again =>
    rw [pass] at step also
    exact ⟨⟨visited.tail pass, step.1, also⟩, step.2⟩
  | leave =>
    rw [pass] at also
    exact also

/-- A loop goes on from any state it passes through. -/
theorem run_visits {fallback : ρ} {start state : σ}
    (decreases : Decreases (fun _ => True) body measure) (visited : Visits body start state) :
    run body measure fallback start = run body measure fallback state := by
  induction visited with
  | refl => rfl
  | tail _ pass ih => rw [ih, run_again decreases pass]

/-- The states of the first `fuel` passes. -/
def states (body : σ → Pass σ ρ) : ℕ → σ → List σ
  | 0, _ => []
  | fuel + 1, state =>
    state ::
      match body state with
      | .again next => states body fuel next
      | .leave _ => []

/-- A loop that leaves within its fuel passes through no other states. -/
theorem mem_states {start state : σ} (leaves : (iterate body fuel start).isSome)
    (visited : Visits body start state) : state ∈ states body fuel start := by
  induction fuel generalizing start with
  | zero => simp [iterate] at leaves
  | succ fuel ih =>
    rcases visited.cases_head with here | ⟨next, pass, later⟩
    · simp [states, here]
    · rw [iterate, pass] at leaves
      rw [states, pass]
      exact List.mem_cons_of_mem _ (ih leaves later)

end Jianmen.Loop
