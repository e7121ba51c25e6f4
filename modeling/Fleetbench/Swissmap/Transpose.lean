/-
This file models `Transpose` and `GetNumSetsOfSize`, from which the cold
benchmarks take their schedule: which key belongs to which set, and how many
sets have a key left. The rows that are transposed may have different lengths.
-/

import Fleetbench.Swissmap.Keys
import Fleetbench.Library.Vector
import Fleetbench.Library.Traverse

namespace Fleetbench.Swissmap

open Library

/-! ### Transpose -/

section

variable {T : Type}

/-- `Transpose`, with `filler` for a default constructed element. A write out of bounds is an
error. `GetTransposedKeys` and `GetTransposedRandomizedKeys` apply it to the vectors of elements of
the sets, as they are and shuffled. -/
def transpose (filler : T) (input : List (List T)) : Option (List T) := do
  let front ← input.head?
  input.zipIdx.foldlM
    (fun v (row, i) => row.zipIdx.foldlM (fun v (element, j) =>
      writeAt v (j * input.length + i) element) v)
    (List.replicate (input.length * front.length) filler)

/-- The writes of the two loops. -/
def transposeWrites (size : Nat) (input : List (List T)) : List (Nat × T) :=
  input.zipIdx.flatMap fun entry => entry.1.zipIdx.map fun element =>
    (element.2 * size + entry.2, element.1)

theorem mem_transposeWrites {size : Nat} {input : List (List T)} {write : Nat × T} :
    write ∈ transposeWrites size input ↔ ∃ (i : Nat) (row : List T) (j : Nat) (element : T),
      input[i]? = some row ∧ row[j]? = some element ∧ write = (j * size + i, element) := by
  rw [transposeWrites, List.mem_flatMap]
  constructor
  · rintro ⟨⟨row, i⟩, isRow, member⟩
    obtain ⟨⟨element, j⟩, isElement, rfl⟩ := List.mem_map.mp member
    exact ⟨i, row, j, element, List.mem_zipIdx_iff_getElem?.mp isRow,
      List.mem_zipIdx_iff_getElem?.mp isElement, rfl⟩
  · rintro ⟨i, row, j, element, isRow, isElement, rfl⟩
    refine ⟨(row, i), List.mem_zipIdx_iff_getElem?.mpr isRow, ?_⟩
    exact List.mem_map.mpr ⟨(element, j), List.mem_zipIdx_iff_getElem?.mpr isElement, rfl⟩

/-- The place of an element determines its row and its index. -/
theorem place_inj {size i j i' j' : Nat} (inside : i < size) (inside' : i' < size)
    (same : j * size + i = j' * size + i') : i = i' ∧ j = j' := by
  have row : i = i' := by
    have mod := congrArg (· % size) same
    simpa only [Nat.mul_add_mod_of_lt inside, Nat.mul_add_mod_of_lt inside'] using mod
  subst row
  exact ⟨rfl, Nat.eq_of_mul_eq_mul_right (Nat.zero_lt_of_lt inside) (Nat.add_right_cancel same)⟩

theorem place_lt {size i j length : Nat} (inside : i < size) (below : j < length) :
    j * size + i < size * length := by
  have next : (j + 1) * size ≤ length * size := Nat.mul_le_mul_right size below
  rw [Nat.add_mul, Nat.one_mul] at next
  rw [Nat.mul_comm size]
  omega

theorem transpose_eq {filler : T} {input : List (List T)} {front : List T}
    (isFront : input.head? = some front) : transpose filler input =
      (transposeWrites input.length input).foldlM (fun v write => writeAt v write.1 write.2)
        (List.replicate (input.length * front.length) filler) := by
  rw [transposeWrites, foldlM_flatMap, transpose, isFront]
  simp only [List.foldlM_map]
  rfl

/-- If no row is longer than the first, every element is found at its place, and the other places
hold the filler. -/
theorem transpose_spec (filler : T) {input : List (List T)} {front : List T}
    (isFront : input.head? = some front) (bound : ∀ row ∈ input, row.length ≤ front.length) :
    ∃ v, transpose filler input = some v ∧ v.length = input.length * front.length ∧
      ∀ i row j, input[i]? = some row → j < front.length →
        v[j * input.length + i]? = some ((row[j]?).getD filler) := by
  have inBounds : ∀ write ∈ transposeWrites input.length input,
      write.1 < (List.replicate (input.length * front.length) filler).length := by
    intro write member
    obtain ⟨i, row, j, element, isRow, isElement, rfl⟩ := mem_transposeWrites.mp member
    have inside := (List.getElem?_eq_some_iff.mp isRow).1
    have below := (List.getElem?_eq_some_iff.mp isElement).1
    rw [List.length_replicate]
    exact place_lt inside (below.trans_le (bound row (List.mem_of_getElem? isRow)))
  obtain ⟨v, runs, length, written⟩ := foldlM_writeAt inBounds
  refine ⟨v, (transpose_eq isFront).trans runs, ?_, fun i row j isRow below => ?_⟩
  · rw [length, List.length_replicate]
  · have inside := (List.getElem?_eq_some_iff.mp isRow).1
    refine written _ _ (fun write member here => ?_) ?_
    · obtain ⟨i', row', j', element, isRow', isElement, rfl⟩ := mem_transposeWrites.mp member
      obtain ⟨rfl, rfl⟩ := place_inj (List.getElem?_eq_some_iff.mp isRow').1 inside here
      cases isRow.symm.trans isRow'
      rw [isElement, Option.getD_some]
    · cases found : row[j]? with
      | none =>
        left
        rw [Option.getD_none, List.getElem?_replicate, if_pos (place_lt inside below)]
      | some element =>
        exact .inr ⟨_, mem_transposeWrites.mpr ⟨i, row, j, element, isRow, found, rfl⟩, rfl⟩

end

/-! ### How many sets have a size -/

section

variable {Key : Type}

/-- `GetNumSetsOfSize`: for each size, the sets before the first that is smaller. -/
def getNumSetsOfSize (sets : List (Finset Key)) : List Nat :=
  (List.range (getLargestSetSize sets + 1)).map fun i =>
    (sets.takeWhile fun set => i ≤ set.card).length

theorem getElem?_getNumSetsOfSize {sets : List (Finset Key)} {i : Nat}
    (inside : i ≤ getLargestSetSize sets) : (getNumSetsOfSize sets)[i]? =
      some (sets.takeWhile fun set => i ≤ set.card).length := by
  rw [getNumSetsOfSize, List.getElem?_map, List.getElem?_range (Nat.lt_succ_of_le inside)]
  rfl

/-- In sorted sets, those that are counted are those that are large enough. -/
theorem lt_length_takeWhile_iff {sets : List (Finset Key)} (sorted : SortedBySize sets) {i j : Nat}
    {set : Finset Key} (found : sets[j]? = some set) :
    j < (sets.takeWhile fun set => i ≤ set.card).length ↔ i ≤ set.card := by
  induction sets generalizing j with
  | nil => cases found
  | cons first rest inductionHypothesis =>
    obtain ⟨largest, restSorted⟩ := List.pairwise_cons.mp sorted
    by_cases enough : i ≤ first.card
    · rw [List.takeWhile_cons_of_pos (by simpa using enough), List.length_cons]
      cases j with
      | zero =>
        cases found
        exact iff_of_true (Nat.succ_pos _) enough
      | succ j => exact Nat.succ_lt_succ_iff.trans (inductionHypothesis restSorted found)
    · rw [List.takeWhile_cons_of_neg (by simpa using enough)]
      refine iff_of_false (Nat.not_lt_zero j) fun large => enough ?_
      rcases List.mem_cons.mp (List.mem_of_getElem? found) with rfl | later
      · exact large
      · exact large.trans (largest set later)

theorem length_takeWhile_eq_countP {sets : List (Finset Key)} (sorted : SortedBySize sets)
    (i : Nat) : (sets.takeWhile fun set => i ≤ set.card).length =
      sets.countP fun set => i ≤ set.card := by
  induction sets with
  | nil => rfl
  | cons first rest inductionHypothesis =>
    obtain ⟨largest, restSorted⟩ := List.pairwise_cons.mp sorted
    by_cases enough : i ≤ first.card
    · rw [List.takeWhile_cons_of_pos (by simpa using enough), List.length_cons,
        inductionHypothesis restSorted, List.countP_cons_of_pos (by simpa using enough)]
    · rw [List.takeWhile_cons_of_neg (by simpa using enough)]
      refine (List.countP_eq_zero.mpr fun set member => ?_).symm
      rw [decide_eq_true_iff]
      rcases List.mem_cons.mp member with rfl | later
      · exact enough
      · exact fun large => enough (large.trans (largest set later))

/-- The items with a size above each index, over all indices. -/
theorem sum_countP_lt {Item : Type} (items : List Item) (size : Item → Nat) (most : Nat) :
    ((List.range most).map fun i => items.countP fun item => i + 1 ≤ size item).sum =
      (items.map fun item => min (size item) most).sum := by
  induction most with
  | zero => simp
  | succ most inductionHypothesis =>
    rw [List.range_succ, List.map_append, List.sum_append, inductionHypothesis]
    clear inductionHypothesis
    induction items with
    | nil => rfl
    | cons item rest inductionHypothesis =>
      simp only [List.map_cons, List.map_nil, List.sum_cons, List.sum_nil, List.countP_cons,
        decide_eq_true_eq] at inductionHypothesis ⊢
      split <;> omega

/-- The batches of a sweep are all elements of the sets. -/
theorem sum_batches {sets : List (Finset Key)} (sorted : SortedBySize sets) : ∃ batches,
    (List.range (getLargestSetSize sets)).mapM (fun i => (getNumSetsOfSize sets)[i + 1]?) =
        some batches ∧
      batches.sum = (sets.map Finset.card).sum := by
  refine ⟨_, mapM_eq_some_map fun i member => getElem?_getNumSetsOfSize
    (Nat.succ_le_of_lt (List.mem_range.mp member)), ?_⟩
  simp only [length_takeWhile_eq_countP sorted]
  rw [sum_countP_lt]
  refine congrArg List.sum (List.map_congr_left fun set member => ?_)
  exact min_eq_left (card_le_largest sorted member)

end

end Fleetbench.Swissmap
