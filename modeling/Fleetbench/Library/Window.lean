/-
This file is about a window that slides over a list: at each step its first item
leaves and the item behind it enters. Over a cycle of different items, followed
by a copy of as many as the window is wide, the window holds different items at
every step and comes back to where it started.
-/

import Mathlib.Data.Finset.Dedup
import Mathlib.Data.Finset.Insert
import Mathlib.Data.Finset.Basic
import Mathlib.Data.Finset.Lattice.Lemmas
import Mathlib.Data.List.Rotate

namespace Fleetbench.Library

universe u

variable {Item : Type u}

/-! ### Windows -/

def window (items : List Item) (width start : Nat) : List Item := (items.drop start).take width

section

variable {items : List Item} {width start : Nat}

theorem window_succ_left {first : Item} (found : items[start]? = some first) :
    window items (width + 1) start = first :: window items width (start + 1) := by
  obtain ⟨bound, rfl⟩ := List.getElem?_eq_some_iff.mp found
  rw [window, window, List.drop_eq_getElem_cons bound, List.take_succ_cons]

theorem window_succ_right {last : Item} (found : items[start + width]? = some last) :
    window items (width + 1) start = window items width start ++ [last] := by
  rw [window, window, List.take_add_one, List.getElem?_drop, found]
  rfl

/-- A step of the window, as sets: the first item is there, the next one is not, and they change
places. -/
theorem toFinset_window_succ [DecidableEq Item] {first last : Item}
    (isFirst : items[start]? = some first) (isLast : items[start + (width + 1)]? = some last)
    (different : (window items (width + 2) start).Nodup) :
    first ∈ (window items (width + 1) start).toFinset ∧
      last ∉ (window items (width + 1) start).toFinset.erase first ∧
      insert last ((window items (width + 1) start).toFinset.erase first) =
        (window items (width + 1) (start + 1)).toFinset := by
  have isLast' : items[start + 1 + width]? = some last := by
    rw [Nat.add_right_comm]
    exact isLast
  rw [window_succ_left isFirst, window_succ_right isLast'] at different
  rw [window_succ_left isFirst, window_succ_right isLast', List.toFinset_cons]
  obtain ⟨firstFresh, others⟩ := List.nodup_cons.mp different
  obtain ⟨-, -, apart⟩ := List.nodup_append.mp others
  have missing : first ∉ (window items width (start + 1)).toFinset := by
    rw [List.mem_toFinset]
    exact fun member => firstFresh (List.mem_append_left _ member)
  rw [Finset.erase_insert missing]
  refine ⟨Finset.mem_insert_self _ _, ?_, ?_⟩
  · rw [List.mem_toFinset]
    exact fun member => apart last member last (List.mem_singleton_self last) rfl
  · rw [List.toFinset_append, Finset.union_comm, List.toFinset_cons, List.toFinset_nil]
    rfl

end

/-! ### Cycles -/

section

variable {cycle : List Item} {width start : Nat}

/-- A window on an unrolled cycle is one on the rotated cycle. -/
theorem window_unrolled (inside : start < cycle.length) (narrow : width < cycle.length) :
    window (cycle ++ cycle.take width) (width + 1) start =
      (cycle.rotate start).take (width + 1) := by
  rw [window, List.drop_append_of_le_length inside.le, List.rotate_eq_drop_append_take inside.le,
    List.take_append, List.take_append, List.length_drop, List.take_take, List.take_take]
  refine congrArg (fun count => _ ++ cycle.take count) ?_
  omega

theorem nodup_window_unrolled (different : cycle.Nodup) (inside : start < cycle.length)
    (narrow : width < cycle.length) :
    (window (cycle ++ cycle.take width) (width + 1) start).Nodup := by
  rw [window_unrolled inside narrow]
  exact (List.nodup_rotate.mpr different).sublist (List.take_sublist _ _)

theorem window_zero (narrow : width ≤ cycle.length) :
    window (cycle ++ cycle.take width) width 0 = cycle.take width := by
  rw [window, List.drop_zero, List.take_append_of_le_length narrow]

/-- Behind the cycle, the window is the first one again. -/
theorem window_length (narrow : width ≤ cycle.length) :
    window (cycle ++ cycle.take width) width cycle.length =
      window (cycle ++ cycle.take width) width 0 := by
  rw [window_zero narrow, window, List.drop_left, List.take_take, min_self]

end

end Fleetbench.Library
