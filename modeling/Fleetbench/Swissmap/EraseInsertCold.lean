/-
This file models `BM_SWISSMAP_EraseInsert_Cold`, and proves when each of its
steps erases a key that is present and inserts one that is not. The index of the
inserted key takes the size of the set behind the erase, so it is one too small
unless the set has one element only.
-/

import Fleetbench.Swissmap.Keys
import Fleetbench.Library.Sweep
import Fleetbench.Library.Vector
import Fleetbench.Library.Traverse

namespace Fleetbench.Swissmap

open Library

variable {Key : Type} [DecidableEq Key]

/-! ### The benchmark -/

/-- `sets_copy`, and what has been done to which set. -/
structure ColdState (Key : Type) where
  sets : List (Finset Key)
  operations : List (Nat × EraseInsert Key)

/-- The body of the inner loop. An index out of bounds is an error. -/
def eraseInsertColdAt (keys : List (List Key)) (i : Nat) (state : ColdState Key) (j : Nat) :
    Option (ColdState Key) := do
  let currSet ← state.sets[j]?
  if i ≥ currSet.card then return state
  else do
    let row ← keys[j]?
    let erased ← row[i]?
    let inserted ← row[i + (currSet.erase erased).card]?
    let operation := ⟨currSet, erased, inserted⟩
    return ⟨state.sets.set j operation.after, state.operations ++ [(j, operation)]⟩

/-- The inner loop. -/
def eraseInsertColdRound (keys : List (List Key)) (i : Nat) (state : ColdState Key) :
    Option (ColdState Key) :=
  (List.range state.sets.length).foldlM (eraseInsertColdAt keys i) state

/-- The benchmark, until `KeepRunningBatch` has admitted `budget` rounds. Each pass copies the
sets anew. -/
def eraseInsertCold (sets : List (Finset Key)) (keys : List (List Key)) (budget : Nat) :
    Option (ColdState Key) :=
  sweep (getLargestSetSize sets) (fun state => { state with sets := sets })
    (eraseInsertColdRound keys) budget 0 ⟨sets, []⟩

/-- What the comments of the benchmark assert, and how often each set is operated on. -/
structure KeepsSizes (sets : List (Finset Key)) (keys : List (List Key)) : Prop where
  operations : ∀ budget, ∃ final, eraseInsertCold sets keys budget = some final ∧
    ∀ entry ∈ final.operations, ∃ set, sets[entry.1]? = some set ∧ entry.2.Sound ∧
      entry.2.after.card = set.card
  passes : ∀ passes final,
    eraseInsertCold sets keys (passes * getLargestSetSize sets) = some final →
      ∀ j set, sets[j]? = some set →
        (final.operations.countP fun entry => entry.1 = j) = passes * set.card

/-! ### Sets with several elements -/

theorem eraseInsertColdAt_cases {keys : List (List Key)} {i j : Nat}
    {state next : ColdState Key} (step : eraseInsertColdAt keys i state j = some next) :
    ∃ currSet, state.sets[j]? = some currSet ∧
      ((currSet.card ≤ i ∧ next = state) ∨
        ∃ row operation, i < currSet.card ∧ keys[j]? = some row ∧ operation.before = currSet ∧
          row[i]? = some operation.erased ∧
          row[i + operation.between.card]? = some operation.inserted ∧
          next = ⟨state.sets.set j operation.after, state.operations ++ [(j, operation)]⟩) := by
  obtain ⟨currSet, found, step⟩ := Option.bind_eq_some_iff.mp step
  refine ⟨currSet, found, ?_⟩
  split at step
  · rename_i past
    exact .inl ⟨past, (Option.some.inj step).symm⟩
  · rename_i inside
    obtain ⟨row, isRow, step⟩ := Option.bind_eq_some_iff.mp step
    obtain ⟨erased, isErased, step⟩ := Option.bind_eq_some_iff.mp step
    obtain ⟨inserted, isInserted, step⟩ := Option.bind_eq_some_iff.mp step
    exact .inr ⟨row, ⟨currSet, erased, inserted⟩, not_le.mp inside, isRow, rfl, isErased,
      isInserted, (Option.some.inj step).symm⟩

theorem eraseInsertColdAt_of_lt {keys : List (List Key)} {i j : Nat} {state : ColdState Key}
    {row : List Key} {operation : EraseInsert Key}
    (found : state.sets[j]? = some operation.before) (inside : i < operation.before.card)
    (isRow : keys[j]? = some row) (isErased : row[i]? = some operation.erased)
    (isInserted : row[i + operation.between.card]? = some operation.inserted) :
    eraseInsertColdAt keys i state j =
      some ⟨state.sets.set j operation.after, state.operations ++ [(j, operation)]⟩ := by
  rw [eraseInsertColdAt, found, Option.bind_eq_bind, Option.bind_some, if_neg (not_le.mpr inside),
    isRow, Option.bind_eq_bind, Option.bind_some, isErased, Option.bind_eq_bind, Option.bind_some]
  rw [EraseInsert.between] at isInserted
  rw [isInserted]
  rfl

section

variable {keys : List (List Key)} {i j : Nat}

/-- A step leaves the other sets and the operations before it alone. -/
theorem eraseInsertColdAt_keeps {state next : ColdState Key}
    (step : eraseInsertColdAt keys i state j = some next) :
    (∀ other ≠ j, next.sets[other]? = state.sets[other]?) ∧
      ∀ entry ∈ state.operations, entry ∈ next.operations := by
  obtain ⟨currSet, -, ⟨-, rfl⟩ | ⟨row, operation, -, -, -, -, -, rfl⟩⟩ :=
    eraseInsertColdAt_cases step
  · exact ⟨fun _ _ => rfl, fun _ member => member⟩
  · exact ⟨fun other different => List.getElem?_set_ne (Ne.symm different),
      fun _ member => List.mem_append_left _ member⟩

theorem mem_operations_of_foldlM {indices : List Nat} {state final : ColdState Key}
    (runs : indices.foldlM (eraseInsertColdAt keys i) state = some final)
    {entry : Nat × EraseInsert Key} (member : entry ∈ state.operations) :
    entry ∈ final.operations :=
  @foldlM_induction _ _ _ (fun state : ColdState Key => entry ∈ state.operations)
    (fun _ _ _ kept step => (eraseInsertColdAt_keeps step).2 entry kept) _ _ _ member runs

/-- The inner loop operates on a set as it finds it. -/
theorem exists_operation {indices : List Nat} (distinct : indices.Nodup) (member : j ∈ indices)
    {state final : ColdState Key}
    (runs : indices.foldlM (eraseInsertColdAt keys i) state = some final) {set : Finset Key}
    (found : state.sets[j]? = some set) (inside : i < set.card) :
    ∃ row operation, (j, operation) ∈ final.operations ∧ keys[j]? = some row ∧
      operation.before = set ∧ row[i]? = some operation.erased ∧
      row[i + operation.between.card]? = some operation.inserted := by
  induction indices generalizing state with
  | nil => cases member
  | cons first rest inductionHypothesis =>
    rw [List.foldlM_cons] at runs
    obtain ⟨next, step, later⟩ := Option.bind_eq_some_iff.mp runs
    obtain ⟨fresh, others⟩ := List.nodup_cons.mp distinct
    rcases List.mem_cons.mp member with rfl | inRest
    · obtain ⟨currSet, isCurrSet, outcome⟩ := eraseInsertColdAt_cases step
      cases found.symm.trans isCurrSet
      obtain ⟨past, -⟩ | ⟨row, operation, -, isRow, isBefore, isErased, isInserted, rfl⟩ := outcome
      · exact absurd inside (not_lt_of_ge past)
      · exact ⟨row, operation, mem_operations_of_foldlM later
          (List.mem_append_right _ (List.mem_singleton_self _)), isRow, isBefore, isErased,
          isInserted⟩
    · refine inductionHypothesis others inRest later ?_
      rw [(eraseInsertColdAt_keeps step).1 j fun same => fresh (same ▸ inRest)]
      exact found

/-- The first key to be inserted into a set with several elements is one of them. -/
theorem card_le_one_of_sound {set : Finset Key} {numKeys : Nat} {row : List Key}
    (extended : IsExtended set numKeys row) {operation : EraseInsert Key}
    (before : operation.before = set) (erased : row[0]? = some operation.erased)
    (inserted : row[0 + operation.between.card]? = some operation.inserted)
    (sound : operation.Sound) : set.card ≤ 1 := by
  obtain ⟨elements, added, rfl, isVector, -⟩ := extended.parts
  subst before
  by_contra several
  have size : operation.between.card = operation.before.card - 1 :=
    Finset.card_erase_of_mem sound.present
  have length := isVector.length_eq
  rw [List.getElem?_append_left (by omega)] at erased
  rw [Nat.zero_add, List.getElem?_append_left (by omega)] at inserted
  have element := isVector.mem_iff.mp (List.mem_of_getElem? inserted)
  refine sound.absent (Finset.mem_erase.mpr ⟨fun same => ?_, element⟩)
  have index := (List.getElem?_inj (by omega) isVector.distinct).mp
    (inserted.trans (congrArg some same |>.trans erased.symm))
  omega

end

/-! ### Sets with one element -/

section

variable {sets : List (Finset Key)} {keys : List (List Key)} {numKeys : Nat}
  (extended : List.Forall₂ (fun set row => IsExtended set numKeys row) sets keys)

include extended

theorem exists_row {j : Nat} {set : Finset Key} (found : sets[j]? = some set) :
    ∃ row, keys[j]? = some row ∧ IsExtended set numKeys row := by
  obtain ⟨bound, rfl⟩ := List.getElem?_eq_some_iff.mp found
  have bound' := bound.trans_eq extended.length_eq
  exact ⟨keys[j], List.getElem?_eq_getElem bound', extended.get bound bound'⟩

/-- A single element is erased and inserted again. -/
theorem eraseInsertColdAt_singleton {j : Nat} {set : Finset Key} (found : sets[j]? = some set)
    (single : set.card = 1) : ∃ operation : EraseInsert Key,
      operation.Sound ∧ operation.after.card = set.card ∧
        ∀ before, eraseInsertColdAt keys 0 ⟨sets, before⟩ j =
          some ⟨sets, before ++ [(j, operation)]⟩ := by
  obtain ⟨row, isRow, ⟨elements, added, rfl, isVector, -⟩, -⟩ := exists_row extended found
  obtain ⟨key, rfl⟩ := List.length_eq_one_iff.mp (isVector.length_eq.trans single)
  have isSet : set = {key} := isVector.toFinset.symm
  subst isSet
  have empty : ({key} : Finset Key).erase key = ∅ := Finset.erase_singleton key
  have after : insert key (({key} : Finset Key).erase key) = {key} := by
    rw [empty]
    rfl
  refine ⟨⟨{key}, key, key⟩, ⟨Finset.mem_singleton_self key, Finset.notMem_erase key _⟩,
    congrArg Finset.card after, fun before => ?_⟩
  rw [@eraseInsertColdAt_of_lt _ _ keys 0 j ⟨sets, before⟩ _ ⟨{key}, key, key⟩ found
    (by rw [Finset.card_singleton]; exact Nat.one_pos) isRow rfl
    (by rw [EraseInsert.between, empty]; rfl)]
  have same : sets.set j (EraseInsert.after ⟨{key}, key, key⟩) = sets := by
    rw [EraseInsert.after, EraseInsert.between, after]
    exact set_of_getElem? found
  rw [same]

variable (single : ∀ set ∈ sets, set.card = 1)

include single

/-- A round erases and inserts the element of every set once, and changes no set. -/
theorem eraseInsertColdRound_singletons : ∃ operations : List (Nat × EraseInsert Key),
    (∀ entry ∈ operations, ∃ set, sets[entry.1]? = some set ∧ entry.2.Sound ∧
      entry.2.after.card = set.card) ∧
    operations.map (·.1) = List.range sets.length ∧
    ∀ before, eraseInsertColdRound keys 0 ⟨sets, before⟩ = some ⟨sets, before ++ operations⟩ := by
  have general {count : Nat} (bound : count ≤ sets.length) :
      ∃ operations : List (Nat × EraseInsert Key),
        (∀ entry ∈ operations, ∃ set, sets[entry.1]? = some set ∧ entry.2.Sound ∧
          entry.2.after.card = set.card) ∧
        operations.map (·.1) = List.range count ∧
        ∀ before, (List.range count).foldlM (eraseInsertColdAt keys 0) ⟨sets, before⟩ =
          some ⟨sets, before ++ operations⟩ := by
    induction count with
    | zero =>
      refine ⟨[], fun entry member => (nomatch member), rfl, fun before => ?_⟩
      rw [List.append_nil]
      rfl
    | succ count inductionHypothesis =>
      obtain ⟨operations, sound, indices, runs⟩ :=
        inductionHypothesis (Nat.le_of_succ_le bound)
      have found : sets[count]? = some sets[count] := List.getElem?_eq_getElem bound
      obtain ⟨operation, isSound, size, step⟩ :=
        eraseInsertColdAt_singleton extended found (single _ (List.getElem_mem bound))
      refine ⟨operations ++ [(count, operation)], ?_, ?_, fun before => ?_⟩
      · refine List.forall_mem_append.mpr ⟨sound, fun entry member => ?_⟩
        rw [List.mem_singleton.mp member]
        exact ⟨_, found, isSound, size⟩
      · rw [List.map_append, indices, List.range_succ]
        rfl
      · rw [foldlM_range_succ, runs, Option.bind_some, step, List.append_assoc]
  exact general (Nat.le_refl sets.length)

theorem eraseInsertCold_singletons (nonempty : sets ≠ []) :
    ∃ operations : List (Nat × EraseInsert Key),
      (∀ entry ∈ operations, ∃ set, sets[entry.1]? = some set ∧ entry.2.Sound ∧
        entry.2.after.card = set.card) ∧
      operations.map (·.1) = List.range sets.length ∧ getLargestSetSize sets = 1 ∧
      ∀ budget, eraseInsertCold sets keys budget =
        some ⟨sets, (List.replicate budget operations).flatten⟩ := by
  obtain ⟨operations, sound, indices, round⟩ := eraseInsertColdRound_singletons extended single
  have largest : getLargestSetSize sets = 1 := by
    obtain ⟨first, rest, rfl⟩ := List.exists_cons_of_ne_nil nonempty
    exact single first List.mem_cons_self
  refine ⟨operations, sound, indices, largest, fun budget => ?_⟩
  have general (before : List (Nat × EraseInsert Key)) :
      sweep 1 (fun state => { state with sets := sets }) (eraseInsertColdRound keys) budget 0
        ⟨sets, before⟩ = some ⟨sets, before ++ (List.replicate budget operations).flatten⟩ := by
    induction budget generalizing before with
    | zero =>
      rw [List.replicate_zero, List.flatten_nil, List.append_nil]
      rfl
    | succ budget inductionHypothesis =>
      rw [sweep_succ one_ne_zero (round before), List.replicate_succ, List.flatten_cons,
        ← List.append_assoc]
      exact inductionHypothesis (before ++ operations)
  rw [eraseInsertCold, largest]
  exact general []

theorem keepsSizes_of_singletons : KeepsSizes sets keys := by
  rcases List.eq_nil_or_concat' sets with rfl | ⟨front, last, isConcat⟩
  · refine ⟨fun budget => ?_, fun passes final _ j set found => nomatch found⟩
    refine ⟨⟨[], []⟩, ?_, fun entry member => nomatch member⟩
    cases budget <;> rfl
  · obtain ⟨operations, sound, indices, largest, runs⟩ := eraseInsertCold_singletons extended single
      (by rw [isConcat]; exact List.concat_ne_nil _ _)
    refine ⟨fun budget => ⟨_, runs budget, fun entry member => ?_⟩,
      fun passes final ends j set found => ?_⟩
    · obtain ⟨_, isCopy, inside⟩ := List.mem_flatten.mp member
      exact sound entry (List.eq_of_mem_replicate isCopy ▸ inside)
    · cases (runs _).symm.trans ends
      have once : (operations.countP fun entry => entry.1 = j) = 1 := by
        have inRange := List.mem_range.mpr (List.getElem?_eq_some_iff.mp found).1
        have count := List.count_eq_one_of_mem List.nodup_range inRange
        rw [← indices, List.count_eq_countP, List.countP_map] at count
        exact count
      rw [List.countP_flatten, List.map_replicate, List.sum_replicate_nat, once, largest,
        single set (List.mem_of_getElem? found)]
      exact Nat.mul_one _

end

/-! ### Indices -/

/-- In the middle of a pass no set has grown by more than the rounds of the pass. -/
def Grown (sets : List (Finset Key)) (done : Nat) (state : ColdState Key) : Prop :=
  done % getLargestSetSize sets ≠ 0 → state.sets.length = sets.length ∧
    ∀ set ∈ state.sets, set.card ≤ getLargestSetSize sets + done % getLargestSetSize sets

section

variable {sets : List (Finset Key)} {keys : List (List Key)}
  (extended : List.Forall₂
    (fun set row => IsExtended set (3 * getLargestSetSize sets) row) sets keys)

include extended

/-- A set grows by one element at most in a step, so the rows are long enough for every round. -/
theorem exists_eraseInsertColdRound {i : Nat} (inside : i < getLargestSetSize sets)
    {state : ColdState Key} (length : state.sets.length = sets.length)
    (bounded : ∀ set ∈ state.sets, set.card ≤ getLargestSetSize sets + i) :
    ∃ next, eraseInsertColdRound keys i state = some next ∧ next.sets.length = sets.length ∧
      ∀ set ∈ next.sets, set.card ≤ getLargestSetSize sets + (i + 1) := by
  have general {count : Nat} (within : count ≤ sets.length) :
      ∃ next, (List.range count).foldlM (eraseInsertColdAt keys i) state = some next ∧
        next.sets.length = sets.length ∧ ∀ j set, next.sets[j]? = some set →
          set.card ≤ getLargestSetSize sets + i + if j < count then 1 else 0 := by
    induction count with
    | zero =>
      exact ⟨state, rfl, length, fun j set found => bounded set (List.mem_of_getElem? found)⟩
    | succ count inductionHypothesis =>
      obtain ⟨next, runs, length', bounded'⟩ := inductionHypothesis (Nat.le_of_succ_le within)
      have found : next.sets[count]? = some next.sets[count] :=
        List.getElem?_eq_getElem (within.trans_eq length'.symm)
      have few := bounded' count _ found
      rw [if_neg (Nat.lt_irrefl count), Nat.add_zero] at few
      rw [foldlM_range_succ, runs, Option.bind_some]
      -- a set that is not operated on is left as it is
      have later (set : Finset Key) (j : Nat) (isSet : next.sets[j]? = some set) :
          set.card ≤ getLargestSetSize sets + i + if j < count + 1 then 1 else 0 := by
        have before := bounded' j set isSet
        split at before <;> split <;> omega
      by_cases past : i ≥ next.sets[count].card
      · refine ⟨next, ?_, length', fun j set isSet => later set j isSet⟩
        rw [eraseInsertColdAt, found, Option.bind_eq_bind, Option.bind_some, if_pos past]
        rfl
      · have isSet : sets[count]? = some sets[count] := List.getElem?_eq_getElem within
        obtain ⟨row, isRow, -, rowLength⟩ := exists_row extended isSet
        have erased : i < row.length := by omega
        have between : (next.sets[count].erase row[i]).card ≤ next.sets[count].card :=
          Finset.card_le_card (Finset.erase_subset _ _)
        have inserted : i + (next.sets[count].erase row[i]).card < row.length := by omega
        have step := @eraseInsertColdAt_of_lt _ _ keys i count next row
          ⟨next.sets[count], row[i], row[i + (next.sets[count].erase row[i]).card]⟩ found
          (not_le.mp past) isRow (List.getElem?_eq_getElem erased)
          (List.getElem?_eq_getElem inserted)
        refine ⟨_, step, (List.length_set ..).trans length', fun j set isSet => ?_⟩
        rcases getElem?_set_cases isSet with ⟨rfl, rfl⟩ | ⟨-, same⟩
        · rw [if_pos (Nat.lt_succ_self _)]
          exact (Finset.card_insert_le _ _).trans (Nat.add_le_add_right (between.trans few) 1)
        · exact later set j same
  obtain ⟨next, runs, length', bounded'⟩ := general (Nat.le_refl sets.length)
  refine ⟨next, ?_, length', fun set member => ?_⟩
  · rw [eraseInsertColdRound, length]
    exact runs
  · obtain ⟨j, found⟩ := List.mem_iff_getElem?.mp member
    have before := bounded' j set found
    split at before <;> omega

/-- The benchmark comes to its end, whatever it erases and inserts. -/
theorem exists_eraseInsertCold (sorted : SortedBySize sets) (positive : getLargestSetSize sets ≠ 0)
    (budget : Nat) : ∃ final, eraseInsertCold sets keys budget = some final := by
  have step (done : Nat) (state : ColdState Key) (holds : Grown sets done state) :
      ∃ next, eraseInsertColdRound keys (done % getLargestSetSize sets)
          (if done % getLargestSetSize sets = 0 then { state with sets := sets } else state) =
            some next ∧ Grown sets (done + 1) next := by
    have inside := Nat.mod_lt done (Nat.pos_of_ne_zero positive)
    have prepared : (if done % getLargestSetSize sets = 0 then { state with sets := sets }
        else state).sets.length = sets.length ∧
        ∀ set ∈ (if done % getLargestSetSize sets = 0 then { state with sets := sets }
          else state).sets,
          set.card ≤ getLargestSetSize sets + done % getLargestSetSize sets := by
      split
      · exact ⟨rfl, fun set member => Nat.le_add_right_of_le (card_le_largest sorted member)⟩
      · rename_i later
        exact holds later
    obtain ⟨next, runs, length, bounded⟩ :=
      exists_eraseInsertColdRound extended inside prepared.1 prepared.2
    refine ⟨next, runs, fun more => ⟨length, fun set member => (bounded set member).trans ?_⟩⟩
    have following := next_mod positive done
    split at following <;> omega
  have start : Grown sets 0 ⟨sets, []⟩ := fun more => absurd (Nat.zero_mod _) more
  obtain ⟨final, runs, -⟩ := sweep_invariant positive step budget start
  rw [Nat.zero_mod] at runs
  exact ⟨final, runs⟩

end

/-- Every step erases a key that is present and inserts one that is not, so that sets keep their
sizes, if and only if all sets have one element only. -/
theorem keepsSizes_iff (sets : List (Finset Key)) (keys : List (List Key))
    (nonempty : ∀ set ∈ sets, set.Nonempty) (sorted : SortedBySize sets)
    (extended : List.Forall₂
      (fun set row => IsExtended set (3 * getLargestSetSize sets) row) sets keys) :
    KeepsSizes sets keys ↔ ∀ set ∈ sets, set.card = 1 := by
  refine ⟨fun keeps set member => ?_, keepsSizes_of_singletons extended⟩
  have positive := Finset.card_pos.mpr (nonempty set member)
  obtain ⟨j, bound, rfl⟩ := List.getElem_of_mem member
  have found : sets[j]? = some sets[j] := List.getElem?_eq_getElem bound
  obtain ⟨final, runs, sound⟩ := keeps.operations 1
  have rounds : getLargestSetSize sets ≠ 0 :=
    (positive.trans_le (card_le_largest sorted member)).ne'
  rw [eraseInsertCold, sweep, if_neg rounds] at runs
  obtain ⟨next, round, ends⟩ := Option.bind_eq_some_iff.mp runs
  cases ends
  obtain ⟨row, operation, isOperation, isRow, before, erased, inserted⟩ :=
    exists_operation List.nodup_range (List.mem_range.mpr bound) round found positive
  obtain ⟨row', isRow', isExtended⟩ := exists_row extended found
  cases isRow.symm.trans isRow'
  obtain ⟨-, -, isSound, -⟩ := sound _ isOperation
  have few := card_le_one_of_sound isExtended before erased inserted isSound
  omega

theorem keepsSizes_singleton : KeepsSizes [({1} : Finset Nat)] [[1, 2, 3]] :=
  (keepsSizes_iff [{1}] [[1, 2, 3]] (by decide) (List.pairwise_singleton _ _)
    (.cons ⟨⟨[1], [2, 3], rfl, ⟨by decide, rfl⟩, by decide, by decide⟩, rfl⟩ .nil)).mpr (by decide)

/-- A set of two elements loses one of them in the first step. -/
theorem not_keepsSizes_pair :
    IsExtended ({1, 2} : Finset Nat) 6 [1, 2, 3, 4, 5, 6] ∧
      (∃ operations, eraseInsertCold [({1, 2} : Finset Nat)] [[1, 2, 3, 4, 5, 6]] 1 =
        some ⟨[{2}], operations⟩) ∧
      ¬ KeepsSizes [({1, 2} : Finset Nat)] [[1, 2, 3, 4, 5, 6]] := by
  refine ⟨⟨⟨[1, 2], [3, 4, 5, 6], rfl, ⟨by decide, rfl⟩, by decide, by decide⟩, rfl⟩, ⟨_, rfl⟩,
    fun keeps => ?_⟩
  obtain ⟨final, runs, sound⟩ := keeps.operations 1
  cases (show eraseInsertCold [({1, 2} : Finset Nat)] [[1, 2, 3, 4, 5, 6]] 1 =
    some ⟨[{2}], [(0, ⟨{1, 2}, 1, 2⟩)]⟩ from rfl).symm.trans runs
  obtain ⟨_, -, isSound, -⟩ := sound _ List.mem_cons_self
  exact absurd isSound.absent (by decide)

end Fleetbench.Swissmap
