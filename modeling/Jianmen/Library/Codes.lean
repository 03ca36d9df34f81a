import Mathlib.Data.List.Infix
import Mathlib.Tactic.Common

/-!
# Codes that end themselves

A code is self-delimiting if the end of a value's code can be told from the code alone, so that
codes may be written one after the other.
-/

namespace Jianmen.Codes

variable {α γ : Type*} {code : α → List γ}

def SelfDelimiting (code : α → List γ) : Prop :=
  ∀ ⦃first second rest rest'⦄, code first ++ rest = code second ++ rest' →
    first = second ∧ rest = rest'

/-- It is enough that no code starts another one. -/
theorem SelfDelimiting.of_apart
    (apart : ∀ first second, code first <+: code second → first = second) :
    SelfDelimiting code := by
  intro first second rest rest' equal
  have same : first = second := by
    have here : code first <+: code second ++ rest' := ⟨rest, equal⟩
    obtain shorter | longer := List.prefix_or_prefix_of_prefix here (List.prefix_append _ rest')
    · exact apart first second shorter
    · exact (apart second first longer).symm
  rw [same] at equal
  exact ⟨same, List.append_cancel_left equal⟩

/-- Any number of values, up to a mark that no code starts with. -/
theorem SelfDelimiting.many (delimiting : SelfDelimiting code) {stop : γ}
    (apart : ∀ value, ∃ head tail, code value = head :: tail ∧ head ≠ stop) :
    SelfDelimiting fun values : List α => values.flatMap code ++ [stop] := by
  intro first second rest rest' equal
  induction first generalizing second with
  | nil =>
    cases second with
    | nil => exact ⟨rfl, by simpa using equal⟩
    | cons value values =>
      obtain ⟨head, tail, begins, other⟩ := apart value
      simp [begins, other.symm] at equal
  | cons value values ih =>
    cases second with
    | nil =>
      obtain ⟨head, tail, begins, other⟩ := apart value
      simp [begins, other] at equal
    | cons =>
      simp only [List.flatMap_cons, List.append_assoc] at equal
      obtain ⟨rfl, equal⟩ := delimiting equal
      obtain ⟨rfl, same⟩ := ih (by simpa using equal)
      exact ⟨rfl, same⟩

end Jianmen.Codes
