/-
This file proves that the repair of the samples is exact. Every sample moves
towards a limit, `0` if the sum is too large and the largest size if it is too
small. Either the sum is reached, or all samples end up at the limit, which
happens only if no samples of the admitted sizes have that sum.
-/

import Fleetbench.Libc.Sizes
import Mathlib.Algebra.Order.BigOperators.Group.List

namespace Fleetbench.Libc

/-! ### Casts -/

/-- The values that the loop casts to `int32_t`. -/
def repairCasts (maxSize : Nat) (expectedBytes : Int) : List Int → Int → List Int
  | [], _ => []
  | oldBytes :: rest, actualBytes =>
    let others := repairCasts maxSize expectedBytes rest
      (actualBytes - oldBytes + repairedBytes maxSize expectedBytes actualBytes oldBytes)
    if expectedBytes < actualBytes then (oldBytes - (actualBytes - expectedBytes)) :: others
    else if actualBytes < expectedBytes then
      (maxSize : Int) :: (oldBytes + (expectedBytes - actualBytes)) :: others
    else []

def FitsInt32 (value : Int) : Prop := int32Min ≤ value ∧ value ≤ int32Max

instance (value : Int) : Decidable (FitsInt32 value) := inferInstanceAs (Decidable (_ ∧ _))

theorem toInt32_of_fits {value : Int} (fits : FitsInt32 value) : toInt32 value = value := by
  obtain ⟨lower, upper⟩ := fits
  rw [int32Min] at lower
  rw [int32Max] at upper
  rw [toInt32]
  omega

/-! ### One sample -/

/-- Whether the sum has to shrink or to grow. -/
inductive Direction where
  | down
  | up

namespace Direction

/-- The sum is still on this side of the target. -/
def Missing (expectedBytes actualBytes : Int) : Direction → Prop
  | down => expectedBytes < actualBytes
  | up => actualBytes < expectedBytes

def limit (maxSize : Nat) : Direction → Int
  | down => 0
  | up => maxSize

def Moves (oldBytes newBytes : Int) : Direction → Prop
  | down => newBytes ≤ oldBytes
  | up => oldBytes ≤ newBytes

theorem exists_missing {expectedBytes actualBytes : Int} (apart : actualBytes ≠ expectedBytes) :
    ∃ direction : Direction, direction.Missing expectedBytes actualBytes := by
  rcases Int.lt_or_gt_of_ne apart with below | above
  · exact ⟨up, below⟩
  · exact ⟨down, above⟩

theorem limit_inside (maxSize : Nat) (direction : Direction) :
    0 ≤ direction.limit maxSize ∧ direction.limit maxSize ≤ maxSize := by
  cases direction with
  | down => exact ⟨Int.le_refl 0, Int.natCast_nonneg maxSize⟩
  | up => exact ⟨Int.natCast_nonneg maxSize, Int.le_refl _⟩

theorem moves_refl (bytes : Int) (direction : Direction) : direction.Moves bytes bytes := by
  cases direction <;> exact Int.le_refl bytes

theorem moves_limit {maxSize : Nat} {bytes : Int} (inside : 0 ≤ bytes ∧ bytes ≤ maxSize)
    (direction : Direction) : direction.Moves bytes (direction.limit maxSize) := by
  cases direction with
  | down => exact inside.1
  | up => exact inside.2

end Direction

section

variable {maxSize : Nat} {expectedBytes actualBytes : Int} {direction : Direction}
  (missing : direction.Missing expectedBytes actualBytes) {oldBytes : Int} {rest : List Int}

include missing

theorem repairSizes_cons :
    repairSizes maxSize expectedBytes (oldBytes :: rest) actualBytes =
      (repairedBytes maxSize expectedBytes actualBytes oldBytes ::
        (repairSizes maxSize expectedBytes rest (actualBytes - oldBytes +
          repairedBytes maxSize expectedBytes actualBytes oldBytes)).1,
        (repairSizes maxSize expectedBytes rest (actualBytes - oldBytes +
          repairedBytes maxSize expectedBytes actualBytes oldBytes)).2) := by
  have apart : actualBytes ≠ expectedBytes := by
    cases direction with
    | down => exact Int.ne_of_gt missing
    | up => exact Int.ne_of_lt missing
  rw [repairSizes, if_neg apart]

variable (fits : ∀ value ∈ repairCasts maxSize expectedBytes (oldBytes :: rest) actualBytes,
  FitsInt32 value)

include fits

/-- A sample moves to the limit, or by all that is missing if that is not further. -/
theorem repairedBytes_cases (inside : 0 ≤ oldBytes ∧ oldBytes ≤ maxSize) :
    (repairedBytes maxSize expectedBytes actualBytes oldBytes =
        oldBytes + (expectedBytes - actualBytes) ∧
      0 ≤ oldBytes + (expectedBytes - actualBytes) ∧
      oldBytes + (expectedBytes - actualBytes) ≤ maxSize) ∨
    repairedBytes maxSize expectedBytes actualBytes oldBytes = direction.limit maxSize ∧
      direction.Missing expectedBytes (actualBytes - oldBytes + direction.limit maxSize) := by
  rw [repairCasts] at fits
  cases direction with
  | down =>
    change expectedBytes < actualBytes at missing
    rw [if_pos missing] at fits
    rw [repairedBytes, if_pos missing, toInt32_of_fits (fits _ List.mem_cons_self)]
    by_cases reached : 0 ≤ oldBytes - (actualBytes - expectedBytes)
    · exact .inl (by omega)
    · refine .inr ⟨max_eq_left (by omega), ?_⟩
      show expectedBytes < actualBytes - oldBytes + 0
      omega
  | up =>
    change actualBytes < expectedBytes at missing
    rw [if_neg (not_lt_of_gt missing), if_pos missing] at fits
    rw [repairedBytes, if_neg (not_lt_of_gt missing),
      toInt32_of_fits (fits _ List.mem_cons_self),
      toInt32_of_fits (fits _ (List.mem_cons_of_mem _ List.mem_cons_self))]
    by_cases reached : oldBytes + (expectedBytes - actualBytes) ≤ maxSize
    · exact .inl (by omega)
    · refine .inr ⟨min_eq_left (by omega), ?_⟩
      show actualBytes - oldBytes + maxSize < expectedBytes
      omega

theorem fits_rest : ∀ value ∈ repairCasts maxSize expectedBytes rest (actualBytes - oldBytes +
    repairedBytes maxSize expectedBytes actualBytes oldBytes), FitsInt32 value := by
  intro value member
  refine fits value ?_
  rw [repairCasts]
  cases direction with
  | down =>
    change expectedBytes < actualBytes at missing
    rw [if_pos missing]
    exact List.mem_cons_of_mem _ member
  | up =>
    change actualBytes < expectedBytes at missing
    rw [if_neg (not_lt_of_gt missing), if_pos missing]
    exact List.mem_cons_of_mem _ (List.mem_cons_of_mem _ member)

end

/-! ### All samples -/

theorem repairSizes_of_eq (maxSize : Nat) (expectedBytes : Int) (samples : List Int) :
    repairSizes maxSize expectedBytes samples expectedBytes = (samples, expectedBytes) := by
  cases samples with
  | nil => rfl
  | cons oldBytes rest => rw [repairSizes, if_pos rfl]

theorem repairSizes_cases {maxSize : Nat} {expectedBytes actualBytes : Int} {direction : Direction}
    (missing : direction.Missing expectedBytes actualBytes) {samples : List Int}
    (inside : ∀ bytes ∈ samples, 0 ≤ bytes ∧ bytes ≤ maxSize)
    (fits : ∀ value ∈ repairCasts maxSize expectedBytes samples actualBytes, FitsInt32 value) :
    (∃ (moved : List Int) (oldBytes newBytes : Int) (rest : List Int),
      samples = moved ++ oldBytes :: rest ∧
      repairSizes maxSize expectedBytes samples actualBytes =
        (List.replicate moved.length (direction.limit maxSize) ++ newBytes :: rest,
          expectedBytes) ∧
      (0 ≤ newBytes ∧ newBytes ≤ maxSize) ∧ direction.Moves oldBytes newBytes ∧
      actualBytes - moved.sum - oldBytes + moved.length * direction.limit maxSize + newBytes =
        expectedBytes) ∨
    ∃ final, repairSizes maxSize expectedBytes samples actualBytes =
        (List.replicate samples.length (direction.limit maxSize), final) ∧
      final = actualBytes - samples.sum + samples.length * direction.limit maxSize ∧
      direction.Missing expectedBytes final := by
  induction samples generalizing actualBytes with
  | nil =>
    refine .inr ⟨actualBytes, rfl, ?_, missing⟩
    rw [List.sum_nil, List.length_nil]
    omega
  | cons oldBytes rest inductionHypothesis =>
    have isOld := inside oldBytes List.mem_cons_self
    have others : ∀ bytes ∈ rest, 0 ≤ bytes ∧ bytes ≤ maxSize :=
      fun bytes member => inside bytes (List.mem_cons_of_mem _ member)
    have fits' := fits_rest missing fits
    rw [repairSizes_cons missing]
    rcases repairedBytes_cases missing fits isOld with ⟨reached, isNew⟩ | ⟨limited, missing'⟩
    · rw [reached, show actualBytes - oldBytes + (oldBytes + (expectedBytes - actualBytes)) =
        expectedBytes by omega, repairSizes_of_eq]
      refine .inl ⟨[], oldBytes, _, rest, rfl, rfl, isNew, ?_, ?_⟩
      · cases direction with
        | down =>
          change expectedBytes < actualBytes at missing
          show _ ≤ oldBytes
          omega
        | up =>
          change actualBytes < expectedBytes at missing
          show oldBytes ≤ _
          omega
      · rw [List.sum_nil, List.length_nil]
        omega
    · rw [limited] at fits' ⊢
      rcases inductionHypothesis missing' others fits' with
        ⟨moved, oldBytes', newBytes, rest', rfl, repaired, isNew, moves, total⟩ |
        ⟨final, repaired, total, missing⟩
      · rw [repaired]
        refine .inl ⟨oldBytes :: moved, oldBytes', newBytes, rest', rfl, rfl, isNew, moves, ?_⟩
        rw [List.sum_cons, List.length_cons, Nat.cast_succ, add_mul, one_mul]
        omega
      · rw [repaired]
        refine .inr ⟨final, rfl, ?_, missing⟩
        rw [List.sum_cons, List.length_cons, Nat.cast_succ, add_mul, one_mul]
        omega

/-! ### The repair -/

/-- The samples behind a repair that reached its target. -/
structure Repaired (maxSize : Nat) (expectedBytes : Int) (samples repaired : List Int) : Prop where
  inside : ∀ bytes ∈ repaired, 0 ≤ bytes ∧ bytes ≤ maxSize
  total : repaired.sum = expectedBytes
  unchanged : samples.sum = expectedBytes → repaired = samples
  shape : ∀ direction : Direction, direction.Missing expectedBytes samples.sum →
    ∃ (unchanged : List Int) (oldBytes newBytes : Int) (moved : List Int),
      samples = unchanged ++ oldBytes :: moved ∧
      repaired = unchanged ++ newBytes :: List.replicate moved.length (direction.limit maxSize)
  moves : ∀ direction : Direction, direction.Missing expectedBytes samples.sum →
    List.Forall₂ (fun oldBytes newBytes => direction.Moves oldBytes newBytes) samples repaired

theorem sum_inside {maxSize : Nat} {samples : List Int}
    (inside : ∀ bytes ∈ samples, 0 ≤ bytes ∧ bytes ≤ maxSize) :
    0 ≤ samples.sum ∧ samples.sum ≤ samples.length * maxSize := by
  refine ⟨List.sum_nonneg fun bytes member => (inside bytes member).1, ?_⟩
  rw [← nsmul_eq_mul]
  exact List.sum_le_card_nsmul _ _ fun bytes member => (inside bytes member).2

theorem forall₂_moves_limit {maxSize : Nat} {moved : List Int} (direction : Direction)
    (inside : ∀ bytes ∈ moved, 0 ≤ bytes ∧ bytes ≤ maxSize) :
    List.Forall₂ (fun oldBytes newBytes => direction.Moves oldBytes newBytes) moved
      (List.replicate moved.length (direction.limit maxSize)) := by
  induction moved with
  | nil => exact .nil
  | cons bytes rest inductionHypothesis =>
    exact .cons (Direction.moves_limit (inside bytes List.mem_cons_self) direction)
      (inductionHypothesis fun other member => inside other (List.mem_cons_of_mem _ member))

theorem Direction.missing_unique {direction other : Direction} {expectedBytes actualBytes : Int}
    (missing : direction.Missing expectedBytes actualBytes)
    (missing' : other.Missing expectedBytes actualBytes) : direction = other := by
  cases direction with
  | down =>
    cases other with
    | down => rfl
    | up => exact absurd missing (not_lt_of_gt missing')
  | up =>
    cases other with
    | down => exact absurd missing (not_lt_of_gt missing')
    | up => rfl

theorem Direction.Missing.ne {direction : Direction} {expectedBytes actualBytes : Int}
    (missing : direction.Missing expectedBytes actualBytes) : actualBytes ≠ expectedBytes := by
  cases direction with
  | down => exact ne_of_gt missing
  | up => exact ne_of_lt missing

/-- A target that has been reached on the way. -/
theorem repaired_of_moved {maxSize : Nat} {direction : Direction} {unchanged moved : List Int}
    {oldBytes newBytes expectedBytes : Int}
    (missing : direction.Missing expectedBytes (unchanged ++ oldBytes :: moved).sum)
    (inside : ∀ bytes ∈ unchanged ++ oldBytes :: moved, 0 ≤ bytes ∧ bytes ≤ maxSize)
    (isNew : 0 ≤ newBytes ∧ newBytes ≤ maxSize) (moves : direction.Moves oldBytes newBytes)
    (total : unchanged.sum + newBytes + moved.length * direction.limit maxSize = expectedBytes) :
    Repaired maxSize expectedBytes (unchanged ++ oldBytes :: moved)
      (unchanged ++ newBytes :: List.replicate moved.length (direction.limit maxSize)) where
  inside bytes member := by
    rcases List.mem_append.mp member with before | behind
    · exact inside bytes (List.mem_append_left _ before)
    · rcases List.mem_cons.mp behind with rfl | limited
      · exact isNew
      · rw [List.eq_of_mem_replicate limited]
        exact direction.limit_inside maxSize
  total := by
    rw [List.sum_append, List.sum_cons, List.sum_replicate, nsmul_eq_mul, ← add_assoc]
    exact total
  unchanged same := absurd same missing.ne
  shape other missing' := by
    obtain rfl := Direction.missing_unique missing missing'
    exact ⟨unchanged, oldBytes, newBytes, moved, rfl, rfl⟩
  moves other missing' := by
    obtain rfl := Direction.missing_unique missing missing'
    refine List.rel_append (List.forall₂_same.mpr fun bytes _ => direction.moves_refl bytes)
      (.cons moves (forall₂_moves_limit direction fun bytes member => ?_))
    exact inside bytes (List.mem_append_right _ (List.mem_cons_of_mem _ member))

theorem Repaired.length_eq {maxSize : Nat} {expectedBytes : Int} {samples result : List Int}
    (repaired : Repaired maxSize expectedBytes samples result) :
    result.length = samples.length := by
  by_cases same : samples.sum = expectedBytes
  · rw [repaired.unchanged same]
  · obtain ⟨direction, missing⟩ := Direction.exists_missing same
    exact (repaired.moves direction missing).length_eq.symm

/-- A target that was reached can be reached. -/
theorem Repaired.feasible {maxSize : Nat} {expectedBytes : Int} {samples result : List Int}
    (repaired : Repaired maxSize expectedBytes samples result) :
    0 ≤ expectedBytes ∧ expectedBytes ≤ samples.length * maxSize := by
  have bounds := sum_inside repaired.inside
  rwa [repaired.total, repaired.length_eq] at bounds

/-- Samples whose sum is right are left alone. -/
theorem repaired_refl {maxSize : Nat} {samples : List Int}
    (inside : ∀ bytes ∈ samples, 0 ≤ bytes ∧ bytes ≤ maxSize) :
    Repaired maxSize samples.sum samples samples :=
  ⟨inside, rfl, fun _ => rfl, fun _ missing => absurd rfl missing.ne,
    fun _ missing => absurd rfl missing.ne⟩

/-- The repair reaches its target, or no samples of the admitted sizes have that sum. -/
theorem repairSizeBytes_cases (maxSize : Nat) (samples : List Int)
    (inside : ∀ bytes ∈ samples, 0 ≤ bytes ∧ bytes ≤ maxSize) (expectedBytes : Int)
    (fits : ∀ value ∈ repairCasts maxSize expectedBytes samples.reverse samples.sum,
      FitsInt32 value) :
    (∃ result, repairSizeBytes maxSize expectedBytes samples = (result, expectedBytes) ∧
        Repaired maxSize expectedBytes samples result) ∨
      (repairSizeBytes maxSize expectedBytes samples).2 ≠ expectedBytes ∧
        ¬ (0 ≤ expectedBytes ∧ expectedBytes ≤ samples.length * maxSize) := by
  have inside' : ∀ bytes ∈ samples.reverse, 0 ≤ bytes ∧ bytes ≤ maxSize :=
    fun bytes member => inside bytes (List.mem_reverse.mp member)
  rw [repairSizeBytes]
  by_cases same : samples.sum = expectedBytes
  · subst same
    rw [repairSizes_of_eq]
    refine .inl ⟨samples, ?_, repaired_refl inside⟩
    dsimp only
    rw [List.reverse_reverse]
  · obtain ⟨direction, missing⟩ := Direction.exists_missing same
    rcases repairSizes_cases missing inside' fits with
      ⟨moved, oldBytes, newBytes, rest, split, repaired, isNew, moves, total⟩ |
      ⟨final, repaired, total, missing'⟩
    · rw [repaired]
      obtain rfl : samples = rest.reverse ++ oldBytes :: moved.reverse := by
        rw [← List.reverse_reverse samples, split]
        simp only [List.reverse_append, List.reverse_cons, List.append_assoc, List.cons_append,
          List.nil_append]
      have base := repaired_of_moved missing inside isNew moves (by
        rw [List.sum_append, List.sum_cons] at total
        rw [List.sum_reverse] at total ⊢
        rw [List.sum_reverse] at total
        rw [List.length_reverse]
        omega)
      have result : Repaired maxSize expectedBytes (rest.reverse ++ oldBytes :: moved.reverse)
          (List.replicate moved.length (direction.limit maxSize) ++ newBytes :: rest).reverse := by
        simpa only [List.length_reverse, List.reverse_append, List.reverse_cons,
          List.reverse_replicate, List.append_assoc, List.cons_append, List.nil_append] using base
      exact .inl ⟨_, rfl, result⟩
    · rw [repaired]
      rw [List.sum_reverse, List.length_reverse, sub_self, zero_add] at total
      refine .inr ⟨missing'.ne, fun bounds => ?_⟩
      cases direction with
      | down =>
        rw [Direction.limit, mul_zero] at total
        change expectedBytes < final at missing'
        omega
      | up =>
        rw [Direction.limit] at total
        change final < expectedBytes at missing'
        omega

/-- The `CHECK` behind the repair passes for exactly the sums that samples of the admitted sizes
can have, and then the samples have changed no more than they had to. -/
theorem repairSizeBytes_exact (maxSize : Nat) (samples : List Int)
    (inside : ∀ bytes ∈ samples, 0 ≤ bytes ∧ bytes ≤ maxSize) (expectedBytes : Int)
    (fits : ∀ value ∈ repairCasts maxSize expectedBytes samples.reverse samples.sum,
      FitsInt32 value) :
    ((repairSizeBytes maxSize expectedBytes samples).2 = expectedBytes ↔
        0 ≤ expectedBytes ∧ expectedBytes ≤ samples.length * maxSize) ∧
      ((repairSizeBytes maxSize expectedBytes samples).2 = expectedBytes →
        Repaired maxSize expectedBytes samples
          (repairSizeBytes maxSize expectedBytes samples).1) := by
  rcases repairSizeBytes_cases maxSize samples inside expectedBytes fits with
    ⟨result, reached, repaired⟩ | ⟨failed, infeasible⟩
  · rw [reached]
    exact ⟨iff_of_true rfl repaired.feasible, fun _ => repaired⟩
  · exact ⟨iff_of_false failed infeasible, fun reached => absurd reached failed⟩

/-- Three samples whose sum has to grow by nine. -/
theorem repairSizeBytes_exact_growing :
    ((repairSizeBytes 10 18 [1, 3, 5]).2 = 18 ↔
        0 ≤ (18 : Int) ∧ (18 : Int) ≤ [1, 3, 5].length * 10) ∧
      ((repairSizeBytes 10 18 [1, 3, 5]).2 = 18 →
        Repaired 10 18 [1, 3, 5] (repairSizeBytes 10 18 [1, 3, 5]).1) :=
  repairSizeBytes_exact 10 [1, 3, 5] (by decide) 18 (by decide)

end Fleetbench.Libc
