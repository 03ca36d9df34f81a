import Mathlib.Algebra.Ring.Int.Defs
import Mathlib.Data.List.Basic
import Mathlib.Tactic.Common

/-!
# Checked computations

Integers of 64 bits, slice expressions that are checked when they are evaluated, so that one out of
range has no value, and checks before the rest of a computation.
-/

namespace Jianmen.Slices

variable {α : Type*} {data : List α} {position : ℕ}

/-- The signed integer with the last 64 bits of a number. -/
def int64 (number : ℤ) : ℤ :=
  number.bmod 18446744073709551616

theorem int64_of_small {number : ℤ} (low : -9223372036854775808 ≤ number)
    (high : number < 9223372036854775808) : int64 number = number := by
  unfold int64 Int.bmod
  dsimp only
  split
  · omega
  · omega

/-- The elements from one index up to another. -/
def slice (data : List α) (low high : ℤ) : Option (List α) :=
  if 0 ≤ low ∧ low ≤ high ∧ high ≤ data.length then
    some ((data.take high.toNat).drop low.toNat)
  else none

theorem slice_eq_none {low high : ℤ} :
    slice data low high = none ↔ low < 0 ∨ high < low ∨ data.length < high := by
  unfold slice
  split
  · refine ⟨nofun, fun outside => ?_⟩
    omega
  · refine ⟨fun _ => ?_, fun _ => rfl⟩
    omega

theorem slice_middle (front middle back : List α) :
    slice (front ++ (middle ++ back)) front.length (front.length + middle.length) = some middle := by
  have inside : (front.length : ℤ) + middle.length ≤ (front ++ (middle ++ back)).length := by
    simp only [List.length_append]
    omega
  rw [slice, if_pos ⟨by omega, by omega, inside⟩, ← Int.natCast_add, Int.toNat_natCast,
    Int.toNat_natCast,
    ← List.append_assoc, ← List.length_append, List.take_left, List.drop_left]

theorem slice_eq_some {low high : ℕ} (ordered : low ≤ high)
    (inside : high ≤ data.length) : slice data low high = some ((data.take high).drop low) := by
  rw [slice, if_pos (by omega), Int.toNat_natCast, Int.toNat_natCast]

/-- The elements before an index. -/
def upTo (data : List α) (position : ℤ) : Option (List α) :=
  slice data 0 position

/-- The elements from an index on. -/
def startingAt (data : List α) (position : ℤ) : Option (List α) :=
  slice data position data.length

theorem upTo_eq_some (inside : position ≤ data.length) :
    upTo data position = some (data.take position) :=
  slice_eq_some (Nat.zero_le position) inside

theorem startingAt_eq_some (inside : position ≤ data.length) :
    startingAt data position = some (data.drop position) := by
  rw [startingAt, slice_eq_some inside le_rfl, List.take_length]

/-- A computation that goes on after a check succeeded. -/
theorem bind_ok {ε β γ : Type} {check : Except ε β} {rest : β → Except ε γ} {result : γ}
    (returned : (check >>= rest) = .ok result) :
    ∃ value, check = .ok value ∧ rest value = .ok result := by
  cases check with
  | error => cases returned
  | ok value => exact ⟨value, rfl, returned⟩

end Jianmen.Slices
