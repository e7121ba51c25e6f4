/-
This file is about shares: weights divided by their sum. Shares do not change
if all weights are scaled, and they follow their weights in any order.
-/

import Mathlib.Algebra.BigOperators.Ring.List
import Mathlib.Algebra.Order.BigOperators.Group.List
import Mathlib.Algebra.Order.Field.Basic

namespace Fleetbench.Library

variable {Entry Number : Type*} [Field Number]

def shares (weights : List Number) : List Number := weights.map (· / weights.sum)

@[simp] theorem length_shares (weights : List Number) : (shares weights).length = weights.length :=
  List.length_map _

theorem sum_shares {weights : List Number} (nonzero : weights.sum ≠ 0) :
    (shares weights).sum = 1 := by
  have scaled : (shares weights).sum = weights.sum * weights.sum⁻¹ := by
    rw [shares]
    simp only [div_eq_mul_inv]
    rw [List.sum_map_mul_right, List.map_id']
  rw [scaled, mul_inv_cancel₀ nonzero]

theorem shares_scaled {factor : Number} (nonzero : factor ≠ 0) (weights : List Number) :
    shares (weights.map (factor * ·)) = shares weights := by
  rw [shares, shares, List.sum_map_mul_left, List.map_id', List.map_map]
  refine List.map_congr_left fun weight _ => ?_
  exact mul_div_mul_left weight weights.sum nonzero

/-- The entries with the shares of their weights. -/
theorem zip_shares (weight : Entry → Number) (entries : List Entry) :
    entries.zip (shares (entries.map weight)) =
      entries.map fun entry => (entry, weight entry / (entries.map weight).sum) := by
  have zipped := @List.zip_map' _ _ _ id (fun entry => weight entry / (entries.map weight).sum)
    entries
  rw [List.map_id] at zipped
  rw [shares, List.map_map]
  exact zipped

theorem zip_shares_perm (weight : Entry → Number) {first second : List Entry}
    (perm : first.Perm second) :
    (first.zip (shares (first.map weight))).Perm (second.zip (shares (second.map weight))) := by
  rw [zip_shares, zip_shares, (perm.map weight).sum_eq]
  exact perm.map _

variable [LinearOrder Number] [IsStrictOrderedRing Number]

theorem shares_nonneg {weights : List Number} (nonneg : ∀ weight ∈ weights, 0 ≤ weight) :
    ∀ share ∈ shares weights, 0 ≤ share := by
  intro share member
  obtain ⟨weight, inside, rfl⟩ := List.mem_map.mp member
  exact div_nonneg (nonneg weight inside) (List.sum_nonneg nonneg)

end Fleetbench.Library
