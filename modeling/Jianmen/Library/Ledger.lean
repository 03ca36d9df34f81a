import Mathlib.Data.List.Perm.Basic
import Mathlib.Data.List.Perm.Subperm

/-!
# Ledgers of opened and closed items

A ledger balances when the items closed so far and those still outstanding are together, as a
multiset, the items that were opened.  Balance is what an exactly-once argument carries: every
item is closed at most as often as it was opened, and exactly as often once nothing is
outstanding.
-/

namespace Jianmen.Ledger

variable {ι : Type*} {opened closed outstanding : List ι}

/-- Closed and outstanding items together are the opened ones. -/
def Balanced (opened closed outstanding : List ι) : Prop :=
  (closed ++ outstanding).Perm opened

theorem Balanced.empty : Balanced ([] : List ι) [] [] :=
  List.Perm.refl _

/-- Opening an item makes it outstanding. -/
theorem Balanced.opening (balanced : Balanced opened closed outstanding) (item : ι) :
    Balanced (opened ++ [item]) closed (outstanding ++ [item]) := by
  unfold Balanced at balanced ⊢
  rw [← List.append_assoc]
  exact balanced.append_right [item]

/-- Closing an outstanding item, wherever it stands. -/
theorem Balanced.closing {before after : List ι} {item : ι}
    (balanced : Balanced opened closed (before ++ item :: after)) :
    Balanced opened (closed ++ [item]) (before ++ after) := by
  refine List.Perm.trans ?_ balanced
  rw [List.append_assoc]
  apply List.Perm.append_left closed
  have moved : (before ++ item :: after).Perm (item :: (before ++ after)) := List.perm_middle
  simpa using moved.symm

/-- Closing the first outstanding item. -/
theorem Balanced.closing_head {item : ι} {rest : List ι}
    (balanced : Balanced opened closed (item :: rest)) :
    Balanced opened (closed ++ [item]) rest := by
  have split : Balanced opened closed ([] ++ item :: rest) := balanced
  simpa using split.closing

/-- Closing a batch of outstanding items from the front. -/
theorem Balanced.closing_front {batch rest : List ι}
    (balanced : Balanced opened closed (batch ++ rest)) :
    Balanced opened (closed ++ batch) rest := by
  unfold Balanced at balanced ⊢
  rwa [List.append_assoc]

/-- Opening and closing an item in one go leaves the outstanding ones alone. -/
theorem Balanced.passing (balanced : Balanced opened closed outstanding) (item : ι) :
    Balanced (opened ++ [item]) (closed ++ [item]) outstanding := by
  have opening : Balanced (opened ++ [item]) closed (outstanding ++ item :: []) :=
    balanced.opening item
  simpa using opening.closing

theorem Balanced.reorder {other : List ι} (balanced : Balanced opened closed outstanding)
    (same : outstanding.Perm other) : Balanced opened closed other :=
  (List.Perm.append_left closed same.symm).trans balanced

/-- No item is closed more often than it was opened. -/
theorem Balanced.closed_subperm (balanced : Balanced opened closed outstanding) :
    closed.Subperm opened := by
  have within : closed.Subperm (closed ++ outstanding) :=
    (List.sublist_append_left closed outstanding).subperm
  exact within.trans balanced.subperm

/-- With nothing outstanding, every item was closed exactly as often as it was opened. -/
theorem Balanced.settled (balanced : Balanced opened closed []) : closed.Perm opened := by
  simpa [Balanced] using balanced

end Jianmen.Ledger
