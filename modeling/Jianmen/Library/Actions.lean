import Mathlib.Tactic.Common

/-!
# Actions that may be disabled

A system whose state changes by actions, some of which are disabled in some states.  A list of
actions is one interleaving of everything that can happen.
-/

namespace Jianmen.Actions

variable {σ α : Type*}

/-- Take the actions one after the other, if each is enabled when its turn comes. -/
def run (step : σ → α → Option σ) : σ → List α → Option σ
  | state, [] => some state
  | state, action :: actions => (step state action).bind fun next => run step next actions

/-- Every action is taken in a state that permits it. -/
def Permitted (step : σ → α → Option σ) (permits : σ → α → Prop) : σ → List α → Prop
  | _, [] => True
  | state, action :: actions =>
    permits state action ∧
      match step state action with
      | none => True
      | some next => Permitted step permits next actions

instance Permitted.decidable (step : σ → α → Option σ) (permits : σ → α → Prop)
    [decides : ∀ state action, Decidable (permits state action)] :
    ∀ state actions, Decidable (Permitted step permits state actions)
  | _, [] => .isTrue trivial
  | state, action :: actions =>
    have := decides state action
    match taken : step state action with
    | none => decidable_of_iff (permits state action) (by simp [Permitted, taken])
    | some next =>
      have := Permitted.decidable step permits next actions
      decidable_of_iff (permits state action ∧ Permitted step permits next actions)
        (by simp [Permitted, taken])

variable {step : σ → α → Option σ} {permits : σ → α → Prop} {invariant : σ → Prop}

/-- What every permitted action keeps holds after every run of permitted actions. -/
theorem run_invariant (keeps : ∀ state action next, invariant state → permits state action →
      step state action = some next → invariant next)
    {state final : σ} {actions : List α} (initially : invariant state)
    (permitted : Permitted step permits state actions)
    (execution : run step state actions = some final) : invariant final := by
  induction actions generalizing state with
  | nil =>
    cases execution
    exact initially
  | cons action actions ih =>
    obtain ⟨next, taken, rest⟩ := Option.bind_eq_some_iff.mp execution
    obtain ⟨allowed, later⟩ := permitted
    rw [taken] at later
    exact ih (keeps state action next initially allowed taken) later rest

/-- What every action keeps holds after every run. -/
theorem run_keeps
    (keeps : ∀ state action next, invariant state → step state action = some next → invariant next)
    {state final : σ} {actions : List α} (initially : invariant state)
    (execution : run step state actions = some final) : invariant final := by
  induction actions generalizing state with
  | nil =>
    cases execution
    exact initially
  | cons action actions ih =>
    obtain ⟨next, taken, rest⟩ := Option.bind_eq_some_iff.mp execution
    exact ih (keeps state action next initially taken) rest

end Jianmen.Actions
