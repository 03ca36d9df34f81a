import Mathlib.Data.List.Induction
import Mathlib.Tactic.Common

/-!
# Pipelines that skip to a barrier

Messages are worked off in order.  One that is rejected makes the worker discard the messages
behind it up to the next barrier.  A log records what became of the messages so far; a message is
dead when it was not carried out, or when it stands before the barrier that ends a skip.  Dead
messages stay dead, whatever is worked off and whatever arrives.
-/

namespace Jianmen.Pipeline

open List

variable {α : Type*} {barrier : α → Bool}

/-- What becomes of a message. -/
inductive Fate where
  | carriedOut
  | rejected
  | discarded
  deriving DecidableEq

/-- Working off one message; the flags say whether messages are being skipped. -/
inductive Step (barrier : α → Bool) : Bool → α × Fate → Bool → Prop where
  | carryOut {skipping : Bool} {message : α} (heeded : skipping = true → barrier message = true) :
      Step barrier skipping (message, .carriedOut) false
  | reject {message : α} (ordinary : barrier message = false) :
      Step barrier false (message, .rejected) true
  | discard {message : α} (ordinary : barrier message = false) :
      Step barrier true (message, .discarded) true

/-- What became of the messages so far, and whether messages are being skipped. -/
inductive Log (barrier : α → Bool) : List (α × Fate) → Bool → Prop where
  | nil : Log barrier [] false
  | snoc {entries : List (α × Fate)} {entry : α × Fate} {skipping after : Bool}
      (log : Log barrier entries skipping) (step : Step barrier skipping entry after) :
      Log barrier (entries ++ [entry]) after

variable {entry : α × Fate} {after skipping : Bool} {log : List (α × Fate)} {messages : List α}

theorem Log.snoc_inv {entries : List (α × Fate)} (log : Log barrier (entries ++ [entry]) after) :
    ∃ skipping, Log barrier entries skipping ∧ Step barrier skipping entry after := by
  generalize whole : entries ++ [entry] = all at log
  cases log with
  | nil => simp at whole
  | snoc log step =>
    obtain ⟨rfl, last⟩ := append_inj' whole rfl
    obtain rfl := singleton_inj.mp last
    exact ⟨_, log, step⟩

/-- The beginning of a log is one. -/
theorem Log.of_append {before after : List (α × Fate)}
    (log : Log barrier (before ++ after) skipping) : ∃ earlier, Log barrier before earlier := by
  induction after using reverseRecOn generalizing skipping with
  | nil => exact ⟨skipping, by simpa using log⟩
  | append_singleton _ _ ih =>
    rw [← append_assoc] at log
    obtain ⟨earlier, shorter, -⟩ := log.snoc_inv
    exact ih shorter

theorem Step.failed (step : Step barrier skipping entry after) : after ↔ entry.2 ≠ .carriedOut := by
  cases step <;> simp

/-- While messages are skipped, one that is no barrier is discarded. -/
theorem Step.skips (step : Step barrier true entry after) (ordinary : barrier entry.1 = false) :
    entry.2 = .discarded := by
  cases step with
  | carryOut heeded => simp [heeded rfl] at ordinary
  | discard => rfl

theorem Step.discarded {message : α} (step : Step barrier skipping (message, .discarded) after) :
    skipping ∧ barrier message = false := by
  cases step with
  | discard ordinary => exact ⟨rfl, ordinary⟩

/-- What follows a failed message is discarded, up to the next barrier. -/
theorem Log.after_failure {before after : List (α × Fate)}
    (log : Log barrier (before ++ entry :: after) skipping) (failed : entry.2 ≠ .carriedOut)
    (ordinary : ∀ later ∈ after, barrier later.1 = false) :
    (∀ later ∈ after, later.2 = .discarded) ∧ skipping := by
  induction after using reverseRecOn generalizing skipping with
  | nil =>
    obtain ⟨earlier, -, step⟩ := log.snoc_inv
    exact ⟨by simp, step.failed.mpr failed⟩
  | append_singleton _ last ih =>
    rw [← cons_append, ← append_assoc] at log
    obtain ⟨earlier, shorter, step⟩ := log.snoc_inv
    obtain ⟨discarded, rfl⟩ := ih shorter fun later member =>
      ordinary later (by simp [member])
    have skipped := step.skips (ordinary last (by simp))
    exact ⟨forall_mem_append.mpr ⟨discarded, forall_mem_singleton.mpr skipped⟩,
      step.failed.mpr (by simp [skipped])⟩

/-- What follows a message that was carried out is not discarded. -/
theorem Log.after_success {before after : List (α × Fate)} {message : α}
    (log : Log barrier (before ++ (message, .carriedOut) :: after) skipping) :
    (after = [] → skipping = false) ∧ ∀ next rest, after = next :: rest → next.2 ≠ .discarded := by
  constructor
  · rintro rfl
    obtain ⟨earlier, -, step⟩ := log.snoc_inv
    cases step
    rfl
  · rintro next rest rfl
    rw [show before ++ (message, Fate.carriedOut) :: next :: rest =
      (before ++ [(message, Fate.carriedOut)] ++ [next]) ++ rest by simp] at log
    obtain ⟨earlier, shorter⟩ := log.of_append
    obtain ⟨_, log, step⟩ := shorter.snoc_inv
    obtain ⟨_, -, carried⟩ := log.snoc_inv
    cases carried with
    | carryOut => cases step <;> simp

/-! ## Dead messages -/

/-- Message number `i` of `messages` was not carried out, or is going to be discarded. -/
def Dead (barrier : α → Bool) (log : List (α × Fate)) (skipping : Bool) (messages : List α)
    (i : ℕ) : Prop :=
  (∃ entry, log[i]? = some entry ∧ entry.2 ≠ .carriedOut) ∨
    (log.length ≤ i ∧ i < messages.length ∧ skipping = true ∧
      ∀ k message, log.length ≤ k → k ≤ i → messages[k]? = some message → barrier message = false)

/-- A dead message has not been carried out. -/
theorem Dead.not_carriedOut {i : ℕ} (dead : Dead barrier log skipping messages i)
    (handled : log[i]? = some entry) : entry.2 ≠ .carriedOut := by
  rcases dead with ⟨other, same, failed⟩ | ⟨unhandled, -⟩
  · rw [handled] at same
    cases same
    exact failed
  · rw [getElem?_eq_none unhandled] at handled
    cases handled

/-- Messages that arrive leave a dead one dead. -/
theorem Dead.arrive {i : ℕ} (dead : Dead barrier log skipping messages i) (more : List α) :
    Dead barrier log skipping (messages ++ more) i := by
  rcases dead with failed | ⟨unhandled, within, skips, ordinary⟩
  · exact .inl failed
  · refine .inr ⟨unhandled, by simp only [length_append]; omega, skips, ?_⟩
    intro k message above below listed
    apply ordinary k message above below
    rwa [getElem?_append_left (by omega)] at listed

/-- Working off the next message leaves a dead one dead. -/
theorem Dead.step {i : ℕ} (dead : Dead barrier log skipping messages i)
    (next : messages[log.length]? = some entry.1) (step : Step barrier skipping entry after) :
    Dead barrier (log ++ [entry]) after messages i := by
  rcases dead with ⟨other, handled, failed⟩ | ⟨unhandled, within, rfl, ordinary⟩
  · refine .inl ⟨other, ?_, failed⟩
    have bound : i < log.length := (List.getElem?_eq_some_iff.mp handled).1
    rwa [getElem?_append_left bound]
  · have skipped := step.skips (ordinary _ _ (Nat.le_refl _) unhandled next)
    rcases Nat.eq_or_lt_of_le unhandled with rfl | later
    · exact .inl ⟨entry, by simp, by simp [skipped]⟩
    · refine .inr ⟨by simpa [Nat.succ_le_iff] using later, within,
        step.failed.mpr (by simp [skipped]), ?_⟩
      intro k message above below listed
      exact ordinary k message (by simp at above; omega) below listed

end Jianmen.Pipeline
