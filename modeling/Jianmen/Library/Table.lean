import Mathlib.Data.List.Nodup
import Mathlib.Tactic.Common

/-!
# Tables with a primary key

A table is a list of rows with distinct keys.  Rows are inserted under a new key and updated where
a condition holds; neither can give two rows the same key, so what an update does can be said row by
row.
-/

namespace Jianmen

open List

/-- A table; `key` is its primary key. -/
structure Table {α κ : Type} (key : α → κ) where
  rows : List α
  distinct : (rows.map key).Nodup

namespace Table

variable {α κ : Type} {key : α → κ}

/-- A table without rows. -/
def empty : Table key :=
  ⟨[], List.nodup_nil⟩

/-- Change the rows that meet a condition. -/
def updateWhere (table : Table key) (condition : α → Bool) (change : α → α)
    (keeps : ∀ row, key (change row) = key row) : Table key where
  rows := table.rows.map fun row => if condition row then change row else row
  distinct := by
    have same : (key ∘ fun row => if condition row then change row else row) = key := by
      funext row
      simp only [Function.comp_apply]
      split
      · exact keeps row
      · rfl
    rw [List.map_map, same]
    exact table.distinct

/-- How many rows meet a condition. -/
def count (table : Table key) (condition : α → Bool) : ℕ :=
  table.rows.countP condition

variable {table next before after : Table key} {condition : α → Bool} {row old new : α} {k : κ}
  {first second : α} {change : α → α}

/-- Two rows with the same key are the same row. -/
theorem eq_of_key (first_mem : first ∈ table.rows)
    (second_mem : second ∈ table.rows) (same : key first = key second) : first = second :=
  inj_on_of_nodup_map table.distinct first_mem second_mem same

/-- A condition that no two rows meet is met at most once. -/
theorem length_filter_le_one
    (unique : ∀ first ∈ table.rows, ∀ second ∈ table.rows, condition first →
      condition second → first = second) : (table.rows.filter condition).length ≤ 1 := by
  have distinct : (table.rows.filter condition).Nodup := (table.distinct.of_map key).filter condition
  have met : ∀ {row}, row ∈ table.rows.filter condition → row ∈ table.rows ∧ condition row :=
    fun member => mem_filter.mp member
  cases found : table.rows.filter condition with
  | nil => exact Nat.zero_le 1
  | cons first rest =>
    rw [found] at distinct met
    cases rest with
    | nil => exact Nat.le_refl 1
    | cons second rest =>
      obtain ⟨first_mem, first_met⟩ := met (.head _)
      obtain ⟨second_mem, second_met⟩ := met (.tail _ (.head _))
      have same := unique first first_mem second second_mem first_met second_met
      exact absurd (same ▸ .head _) (nodup_cons.mp distinct).1

theorem mem_updateWhere {keeps : ∀ row, key (change row) = key row} :
    row ∈ (table.updateWhere condition change keeps).rows ↔
      ∃ old ∈ table.rows, (if condition old then change old else old) = row :=
  mem_map

theorem updateWhere_of_count_eq_zero {keeps : ∀ row, key (change row) = key row}
    (none : table.count condition = 0) : table.updateWhere condition change keeps = table := by
  obtain ⟨rows, _⟩ := table
  have unmet : ∀ row ∈ rows, ¬condition row := countP_eq_zero.mp none
  have same : (rows.map fun row => if condition row then change row else row) = rows := by
    rw [map_congr_left fun row member => if_neg (unmet row member), map_id']
  simp [updateWhere, same]

variable [DecidableEq κ]

/-- The row under a key. -/
def get? (table : Table key) (k : κ) : Option α :=
  table.rows.find? fun row => decide (key row = k)

/-- Insert a row under a new key. -/
def insert? (table : Table key) (row : α) : Option (Table key) :=
  if taken : key row ∈ table.rows.map key then none
  else
    some
      { rows := table.rows ++ [row]
        distinct := by
          rw [List.map_append, List.map_singleton]
          exact List.Nodup.append table.distinct (List.nodup_singleton _)
            (List.disjoint_singleton.mpr taken) }

/-! ## Rows under keys -/

theorem get?_key (present : table.get? k = some row) : key row = k := by
  have found := find?_some present
  exact of_decide_eq_true found

theorem get?_mem (present : table.get? k = some row) : row ∈ table.rows :=
  mem_of_find?_eq_some present

theorem get?_of_mem (member : row ∈ table.rows) : table.get? (key row) = some row := by
  cases found : table.get? (key row) with
  | none =>
    have missing := find?_eq_none.mp found row member
    simp at missing
  | some =>
    rw [eq_of_key (get?_mem found) member (get?_key found)]

theorem mem_iff_get? : row ∈ table.rows ↔ table.get? (key row) = some row :=
  ⟨get?_of_mem, get?_mem⟩

/-- An update works row by row. -/
theorem get?_updateWhere (table : Table key) (condition : α → Bool) (change : α → α)
    (keeps : ∀ row, key (change row) = key row) (k : κ) :
    (table.updateWhere condition change keeps).get? k =
      (table.get? k).map fun row => if condition row then change row else row := by
  unfold get? updateWhere
  rw [find?_map]
  have same : ((fun row => decide (key row = k)) ∘
      fun row => if condition row then change row else row) = fun row => decide (key row = k) := by
    funext row
    simp only [Function.comp_apply]
    split
    · rw [keeps row]
    · rfl
  rw [same]

theorem get?_insert? (inserted : table.insert? row = some next) (k : κ) :
    next.get? k = if key row = k then some row else table.get? k := by
  unfold insert? at inserted
  split at inserted
  · cases inserted
  rename_i fresh
  cases inserted
  unfold get?
  by_cases same : key row = k
  · have missing : table.rows.find? (fun row => decide (key row = k)) = none := by
      refine find?_eq_none.mpr fun other member => ?_
      rw [decide_eq_true_eq, ← same]
      exact fun equal => fresh (equal ▸ mem_map_of_mem member)
    simp [missing]
  · simp [same]

theorem insert?_fresh (inserted : table.insert? row = some next) : table.get? (key row) = none := by
  unfold insert? at inserted
  split at inserted
  · cases inserted
  rename_i fresh
  refine find?_eq_none.mpr fun other member => ?_
  rw [decide_eq_true_eq]
  exact fun equal => fresh (equal ▸ mem_map_of_mem member)

/-- A condition that names a key is met by the row under that key, or by none. -/
theorem count_of_key (table : Table key) (names : ∀ row, condition row → key row = k) :
    table.count condition = if (table.get? k).any condition then 1 else 0 := by
  cases present : table.get? k with
  | none =>
    have unmet : ∀ row ∈ table.rows, ¬condition row := by
      intro row member met
      have found := get?_of_mem member
      rw [names row met, present] at found
      cases found
    simpa [count] using unmet
  | some row =>
    have only : ∀ other ∈ table.rows, condition other → other = row := by
      intro other member met
      exact eq_of_key member (get?_mem present) ((names other met).trans (get?_key present).symm)
    have once : table.rows.Nodup := List.Nodup.of_map key table.distinct
    cases met : condition row with
    | true =>
      have kept : table.rows.filter condition = [row] := by
        refine perm_singleton.mp ((perm_ext_iff_of_nodup (once.filter _)
          (nodup_singleton row)).mpr fun other => ?_)
        rw [mem_filter, mem_singleton]
        exact ⟨fun chosen => only other chosen.1 chosen.2, fun same =>
          same ▸ ⟨get?_mem present, met⟩⟩
      simp [count, countP_eq_length_filter, kept, met]
    | false =>
      have unmet : ∀ other ∈ table.rows, ¬condition other := by
        intro other member other_met
        rw [only other member other_met, met] at other_met
        cases other_met
      simpa [count, met] using unmet

/-- One row of a table has been replaced by another with the same key. -/
structure Replaces (before after : Table key) (old new : α) : Prop where
  same_key : key new = key old
  present : before.get? (key old) = some old
  rows : ∀ k, after.get? k = if k = key old then some new else before.get? k

/-- An update whose condition names a key replaces the row under that key if that row meets it. -/
theorem updateWhere_replaces_of_get? (change : α → α) (keeps : ∀ row, key (change row) = key row)
    (names : ∀ row, condition row → key row = k) (present : table.get? k = some old)
    (chosen : condition old) :
    Replaces table (table.updateWhere condition change keeps) old (change old) := by
  have named : key old = k := get?_key present
  refine ⟨keeps old, named ▸ present, fun other => ?_⟩
  rw [get?_updateWhere]
  by_cases same : other = key old
  · rw [same, named, present]
    simp [chosen]
  rw [if_neg same]
  cases found : table.get? other with
  | none => rfl
  | some row =>
    have unmet : ¬condition row := by
      intro row_met
      exact same ((get?_key found).symm.trans ((names row row_met).trans named.symm))
    simp [unmet]

/-- Such a row exists if any row meets the condition. -/
theorem updateWhere_replaces (change : α → α) (keeps : ∀ row, key (change row) = key row)
    (names : ∀ row, condition row → key row = k) (met : table.count condition ≠ 0) :
    ∃ old, table.get? k = some old ∧ condition old ∧
      Replaces table (table.updateWhere condition change keeps) old (change old) := by
  rw [count_of_key table names] at met
  cases present : table.get? k with
  | none => simp [present] at met
  | some old =>
    have chosen : condition old := by simpa [present] using met
    exact ⟨old, rfl, chosen, updateWhere_replaces_of_get? change keeps names present chosen⟩

theorem Replaces.get?_new (replaces : Replaces before after old new) :
    after.get? (key old) = some new := by
  rw [replaces.rows, if_pos rfl]

theorem Replaces.get?_other (replaces : Replaces before after old new) (other : k ≠ key old) :
    after.get? k = before.get? k := by
  rw [replaces.rows, if_neg other]

/-- What holds of a row holds of the row under its key afterwards. -/
theorem Replaces.later {p : α → Prop} (replaces : Replaces before after old new)
    (found : before.get? k = some row) (holds : p row) (kept : p old → p new) :
    ∃ current, after.get? k = some current ∧ p current := by
  by_cases named : k = key old
  · rw [named, replaces.present] at found
    cases found
    exact ⟨new, named ▸ replaces.get?_new, kept holds⟩
  · exact ⟨row, (replaces.get?_other named).trans found, holds⟩

theorem Replaces.earlier (replaces : Replaces before after old new) (found : after.get? k = some row) :
    (k = key old ∧ row = new) ∨ before.get? k = some row := by
  by_cases named : k = key old
  · cases (named ▸ replaces.get?_new).symm.trans found
    exact .inl ⟨named, rfl⟩
  · exact .inr ((replaces.get?_other named).symm.trans found)

/-- Only one row can have been replaced by another one. -/
theorem Replaces.unique {old new : α} (replaces : Replaces before after old new)
    (again : Replaces before after first second) (changed : old ≠ new) :
    first = old ∧ second = new := by
  have same : key old = key first := by
    by_contra other
    have kept := again.get?_other other
    rw [replaces.get?_new, replaces.present] at kept
    exact changed (Option.some.inj kept).symm
  have present := again.present
  have found := again.get?_new
  rw [← same, replaces.present] at present
  rw [← same, replaces.get?_new] at found
  exact ⟨(Option.some.inj present).symm, (Option.some.inj found).symm⟩

end Table
end Jianmen
