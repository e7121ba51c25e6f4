/-
This file proves what all of `SampleSizeBytes` returns. The pass over the
distribution fills every slot, so that the first `CHECK` passes; the pass over
the samples then repairs their sum wherever sizes up to the largest can have it,
and the shuffle at the end moves them only. `BM_Memory` plans its operations for
such samples.
-/

import Fleetbench.Libc.Quantiles
import Fleetbench.Libc.Repair

namespace Fleetbench.Libc

/-- Sizes that are filled in are sizes of the distribution, or the largest. -/
theorem quantileFilling_inside {distribution : MemorySizeDistribution}
    (ordered : distribution.Pairwise fun first second => first.1 < second.1)
    (nonneg : ∀ entry ∈ distribution, 0 ≤ entry.2) (positive : 0 < percentages distribution)
    (sizes : ∀ entry ∈ distribution, 0 ≤ entry.1) {maxSize : Nat} (isInt32 : FitsInt32 maxSize)
    (nSamples : Nat) :
    ∀ bytes ∈ (quantileFilling distribution maxSize nSamples).sizeBytes,
      0 ≤ bytes ∧ bytes ≤ maxSize := by
  intro bytes member
  rw [sizeBytes_quantileFilling nonneg positive, toInt32_of_fits isInt32] at member
  obtain ⟨size, inside, rfl⟩ := List.mem_map.mp member
  obtain ⟨entry, isEntry, rfl⟩ :=
    (quantileSizes_ordered nSamples (percentages distribution) ordered 0).2 size inside
  exact ⟨le_min (sizes entry isEntry) (Int.natCast_nonneg maxSize), min_le_right _ _⟩

/-- The samples that are returned: those the distribution asks for, repaired and shuffled. -/
structure Sampled (distribution : MemorySizeDistribution) (maxSize nSamples : Nat)
    (filling : Filling) (samples : List Int) : Prop where
  length : samples.length = nSamples
  inside : ∀ bytes ∈ samples, 0 ≤ bytes ∧ bytes ≤ maxSize
  total : samples.sum = expectedBytesOf nSamples distribution
  repaired : ∃ result, samples.Perm result ∧
    Repaired maxSize (expectedBytesOf nSamples distribution) filling.sizeBytes result

theorem sampled_of_repaired {distribution : MemorySizeDistribution} {maxSize nSamples : Nat}
    {filling : Filling} (full : filling.sizeBytes.length = nSamples) {result : List Int}
    (repaired : Repaired maxSize (expectedBytesOf nSamples distribution) filling.sizeBytes result)
    (shuffle : Shuffle) : Sampled distribution maxSize nSamples filling (shuffle.order result) where
  length := (shuffle.perm result).length_eq.trans (repaired.length_eq.trans full)
  inside bytes member := repaired.inside bytes ((shuffle.perm result).mem_iff.mp member)
  total := (shuffle.perm result).sum_eq.trans repaired.total
  repaired := ⟨result, shuffle.perm result, repaired⟩

section

variable {distribution : MemorySizeDistribution}
  (ordered : distribution.Pairwise fun first second => first.1 < second.1)
  (nonneg : ∀ entry ∈ distribution, 0 ≤ entry.2) (positive : 0 < percentages distribution)
  (sizes : ∀ entry ∈ distribution, 0 ≤ entry.1) {maxSize : Nat} (isInt32 : FitsInt32 maxSize)
  (nSamples : Nat)

include ordered nonneg positive

/-- The `CHECK` behind the first pass holds, and the one behind the second decides. -/
theorem sampleSizeBytes_eq {fuel : Nat} (enough : nSamples < fuel) (shuffle : Shuffle) :
    sampleSizeBytes fuel shuffle distribution maxSize nSamples =
      if (repairSizeBytes maxSize (expectedBytesOf nSamples distribution)
          (quantileFilling distribution maxSize nSamples).sizeBytes).2 =
        expectedBytesOf nSamples distribution then
        some (shuffle.order (repairSizeBytes maxSize (expectedBytesOf nSamples distribution)
          (quantileFilling distribution maxSize nSamples).sizeBytes).1)
      else none := by
  rw [sampleSizeBytes]
  change (fillSizes fuel nSamples (percentages distribution) maxSize distribution 0 _ >>= _) = _
  rw [fillSizes_quantileFilling nonneg positive maxSize enough]
  exact if_pos (quantiles_quantileFilling ordered nonneg positive maxSize nSamples).complete

include sizes isInt32

/-- `SampleSizeBytes` fills in the quantiles of the distribution. If nothing is cut off where the
repair casts, samples are returned exactly if sizes up to the largest can have the sum that is
expected; every sample is then such a size and the sum is that one. -/
theorem sampleSizeBytes_sampled : ∃ filling,
    (∀ fuel, nSamples < fuel →
      fillSizes fuel nSamples (percentages distribution) maxSize distribution 0
        ⟨List.replicate nSamples 0, 0, []⟩ = some filling) ∧
    Quantiles distribution maxSize nSamples filling ∧
    ((∀ value ∈ repairCasts maxSize (expectedBytesOf nSamples distribution)
        filling.sizeBytes.reverse filling.sizeBytes.sum, FitsInt32 value) →
      ∀ fuel, nSamples < fuel → ∀ shuffle,
        ((sampleSizeBytes fuel shuffle distribution maxSize nSamples).isSome ↔
          0 ≤ expectedBytesOf nSamples distribution ∧
            expectedBytesOf nSamples distribution ≤ nSamples * maxSize) ∧
        ∀ samples, sampleSizeBytes fuel shuffle distribution maxSize nSamples = some samples →
          Sampled distribution maxSize nSamples filling samples) := by
  refine ⟨quantileFilling distribution maxSize nSamples,
    fun _ enough => fillSizes_quantileFilling nonneg positive maxSize enough,
    quantiles_quantileFilling ordered nonneg positive maxSize nSamples,
    fun fits fuel enough shuffle => ?_⟩
  have inside := quantileFilling_inside ordered nonneg positive sizes isInt32 nSamples
  have full : (quantileFilling distribution maxSize nSamples).sizeBytes.length = nSamples := by
    rw [sizeBytes_quantileFilling nonneg positive, List.length_map,
      length_quantileSizes_all nonneg positive]
  rw [sampleSizeBytes_eq ordered nonneg positive nSamples enough]
  rcases repairSizeBytes_cases maxSize _ inside _ fits with
    ⟨result, reached, repaired⟩ | ⟨failed, infeasible⟩
  · have feasible := repaired.feasible
    rw [full] at feasible
    rw [reached, if_pos rfl]
    refine ⟨iff_of_true rfl feasible, fun samples returned => ?_⟩
    obtain rfl := Option.some.inj returned
    exact sampled_of_repaired full repaired shuffle
  · rw [if_neg failed]
    rw [full] at infeasible
    refine ⟨iff_of_false Bool.false_ne_true infeasible, fun samples returned => ?_⟩
    cases returned

end

/-- Ten samples of three sizes, the largest of which is cut down to 32 bytes. The others make up
for it. -/
theorem sampleSizeBytes_sampled_three : ∃ samples,
    sampleSizeBytes 11 .identity [(1, 1 / 2), (8, 0), (64, 1 / 4)] 32 10 = some samples ∧
      samples.length = 10 ∧ (∀ bytes ∈ samples, 0 ≤ bytes ∧ bytes ≤ 32) ∧ samples.sum = 165 := by
  obtain ⟨filling, filled, -, law⟩ := @sampleSizeBytes_sampled [(1, 1 / 2), (8, 0), (64, 1 / 4)]
    (by decide) (by decide +kernel) (by decide +kernel) (by decide) 32 (by decide) 10
  have casts : (fillSizes 11 10 (percentages [(1, 1 / 2), (8, 0), (64, 1 / 4)]) 32
      [(1, 1 / 2), (8, 0), (64, 1 / 4)] 0 ⟨List.replicate 10 0, 0, []⟩).any (fun filling =>
        (repairCasts 32 (expectedBytesOf 10 [(1, 1 / 2), (8, 0), (64, 1 / 4)])
          filling.sizeBytes.reverse filling.sizeBytes.sum).all fun value => FitsInt32 value) =
      true := by
    decide +kernel
  rw [filled 11 (by decide)] at casts
  have fits := fun value member => of_decide_eq_true (List.all_eq_true.mp casts value member)
  obtain ⟨returns, sampled⟩ := law fits 11 (by decide) .identity
  have expected : expectedBytesOf 10 [(1, 1 / 2), (8, 0), (64, 1 / 4)] = 165 := by
    decide +kernel
  rw [expected] at returns
  obtain ⟨samples, isSamples⟩ := Option.isSome_iff_exists.mp (returns.mpr (by decide))
  have isSampled := sampled samples isSamples
  exact ⟨samples, isSamples, isSampled.length, isSampled.inside, isSampled.total.trans expected⟩

end Fleetbench.Libc
