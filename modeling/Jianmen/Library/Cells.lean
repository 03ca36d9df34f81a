import Mathlib.Tactic.Common

/-!
# Cells written by a loop over rows

A loop over rows changes a state; of the state only one cell is of interest.  A row that does not
hit the cell leaves it, and if all rows that hit it write alike, the cell is what one of them
writes.
-/

namespace Jianmen

/-- A step of a loop over rows that touches a cell of the state only where a row hits it. -/
structure Cell {σ α β : Type} (step : σ → α → σ) where
  read : σ → β
  hit : α → Prop
  write : α → β → β
  missed : ∀ {state row}, ¬hit row → read (step state row) = read state
  written : ∀ {state row}, hit row → read (step state row) = write row (read state)

namespace Cell

variable {σ α β : Type} {step : σ → α → σ} (cell : Cell (β := β) step) {rows : List α}

/-- Rows that miss the cell leave it. -/
theorem foldl_missed (missed : ∀ row ∈ rows, ¬cell.hit row) (state : σ) :
    cell.read (rows.foldl step state) = cell.read state := by
  induction rows generalizing state with
  | nil => rfl
  | cons row _ ih =>
    obtain ⟨here, there⟩ := List.forall_mem_cons.mp missed
    rw [List.foldl_cons, ih there, cell.missed here]

/-- Rows that all write alike leave what one of them writes, and writing again makes no difference.
-/
theorem foldl_written {row : α} (member : row ∈ rows) (hits : cell.hit row)
    (alike : ∀ other ∈ rows, cell.hit other → cell.write other = cell.write row)
    (again : ∀ value, cell.write row (cell.write row value) = cell.write row value) (state : σ) :
    cell.read (rows.foldl step state) = cell.write row (cell.read state) := by
  have reached : ∀ (rows : List α) (state : σ) (value : β),
      (∀ other ∈ rows, cell.hit other → cell.write other = cell.write row) →
      cell.read state = cell.write row value →
      cell.read (rows.foldl step state) = cell.write row value := by
    intro rows
    induction rows with
    | nil => exact fun _ _ _ read => read
    | cons other rest ih =>
      intro state value alike read
      obtain ⟨here, there⟩ := List.forall_mem_cons.mp alike
      apply ih _ value there
      by_cases hit : cell.hit other
      · rw [cell.written hit, here hit, read, again]
      · rw [cell.missed hit, read]
  induction rows generalizing state with
  | nil => cases member
  | cons other rest ih =>
    obtain ⟨here, there⟩ := List.forall_mem_cons.mp alike
    rw [List.foldl_cons]
    by_cases hit : cell.hit other
    · apply reached rest _ _ there
      rw [cell.written hit, here hit]
    have later : row ∈ rest := by
      obtain rfl | later := List.mem_cons.mp member
      · exact absurd hits hit
      · exact later
    rw [ih later there, cell.missed hit]

end Cell

/-- What no step of a loop changes stays. -/
theorem read_foldl {σ α β : Type} {step : σ → α → σ} {read : σ → β}
    (kept : ∀ state row, read (step state row) = read state) (rows : List α) (state : σ) :
    read (rows.foldl step state) = read state := by
  induction rows generalizing state with
  | nil => rfl
  | cons row _ ih => rw [List.foldl_cons, ih, kept]

end Jianmen
