/-
This file models `BM_SWISSMAP_Iterate_Cold`, which reads every set through many
iterators that start a stride apart and take turns. It proves that no iterator is
advanced or read beyond the end, and that each sweep reads the elements below the
last stride of the smallest set once. Those behind it are never read.
-/

import Fleetbench.Swissmap.ColdSchedule
import Fleetbench.Swissmap.GenerateSets

namespace Fleetbench.Swissmap

open Library

variable {Key : Type} [DecidableEq Key]

/-! ### The benchmark -/

def IterateCold.kStride : Nat := 16

/-- The iterators of each set, as indices, and what has been read. -/
structure Strides (Key : Type) where
  setIterators : List (List Nat)
  reads : List (Access Key)

/-- The iterators of a set of some size, from an index on. Advancing beyond the end is an error. -/
def startIterators (size : Nat) : Nat → Nat → Option (List Nat)
  | 0, _ => some []
  | numStrides + 1, it => do
    guard (it + IterateCold.kStride ≤ size)
    let iters ← startIterators size numStrides (it + IterateCold.kStride)
    return it :: iters

/-- One of the iterators of a set is read and advanced. -/
def readStride (j : Nat) (setIterators : List (List Nat)) (entry : List Key × Nat) :
    Option (List Nat × Access Key) := do
  let iters ← setIterators[entry.2]?
  let iter ← iters[j]?
  let key ← entry.1[iter]?
  return (iters.set j (iter + 1), ⟨entry.2, entry.1.toFinset, key⟩)

/-- The inner loop over the sets, in the round of this number. -/
def strideRound (elements : List (List Key)) (numStrides i : Nat) (state : Strides Key) :
    Option (Strides Key) := do
  let outcomes ← elements.zipIdx.mapM (readStride (i % numStrides) state.setIterators)
  return ⟨outcomes.map Prod.fst, state.reads ++ outcomes.map Prod.snd⟩

/-- `BM_SWISSMAP_Iterate_Cold`, for sets given by their elements in the order of their iteration,
and for as many rounds as `KeepRunningBatch` admits. -/
def iterateCold (elements : List (List Key)) (budget : Nat) : Option (Strides Key) := do
  let back ← elements.getLast?
  let numStrides := back.length / IterateCold.kStride
  guard (0 < numStrides)
  let start ← elements.mapM fun row => startIterators row.length numStrides 0
  sweep (IterateCold.kStride * numStrides) (fun state => { state with setIterators := start })
    (strideRound elements numStrides) budget 0 ⟨[], []⟩

/-! ### Where the iterators are -/

/-- What the round of this number reads. -/
def stridePlace (numStrides i : Nat) : Nat :=
  IterateCold.kStride * (i % numStrides) + i / numStrides

/-- The iterators before this round. -/
def positions (numStrides i : Nat) : List Nat :=
  (List.range numStrides).map fun j =>
    IterateCold.kStride * j + i / numStrides + if j < i % numStrides then 1 else 0

section

variable {numStrides i : Nat}

theorem startIterators_eq {size : Nat} (numStrides : Nat) {it : Nat}
    (large : it + IterateCold.kStride * numStrides ≤ size) : startIterators size numStrides it =
      some ((List.range numStrides).map fun j => it + IterateCold.kStride * j) := by
  induction numStrides generalizing it with
  | zero => rfl
  | succ numStrides inductionHypothesis =>
    rw [Nat.mul_succ, Nat.add_comm _ IterateCold.kStride, ← Nat.add_assoc] at large
    rw [startIterators, inductionHypothesis large, List.range_succ_eq_map, List.map_cons,
      List.map_map]
    refine Option.bind_eq_some_iff.mpr
      ⟨(), if_pos (Nat.le_of_add_right_le large), congrArg some (congrArg (List.cons it) ?_)⟩
    refine List.map_congr_left fun j _ => ?_
    rw [Function.comp_apply, Nat.mul_succ, Nat.add_assoc, Nat.add_comm IterateCold.kStride]

theorem positions_zero (numStrides : Nat) :
    positions numStrides 0 = (List.range numStrides).map fun j => 0 + IterateCold.kStride * j := by
  refine List.map_congr_left fun j _ => ?_
  rw [Nat.zero_mod, Nat.zero_div, if_neg (Nat.not_lt_zero j), Nat.zero_add]
  rfl

theorem getElem?_positions {j : Nat} (inside : j < numStrides) :
    (positions numStrides i)[j]? = some (IterateCold.kStride * j + i / numStrides +
      if j < i % numStrides then 1 else 0) := by
  rw [positions, List.getElem?_map, List.getElem?_range inside]
  rfl

theorem getElem?_positions_mod (positive : 0 < numStrides) :
    (positions numStrides i)[i % numStrides]? = some (stridePlace numStrides i) := by
  rw [getElem?_positions (Nat.mod_lt i positive), if_neg (Nat.lt_irrefl _)]
  rfl

/-- A round moves the iterators to where the next round finds them. -/
theorem set_positions (positive : 0 < numStrides) :
    (positions numStrides i).set (i % numStrides) (stridePlace numStrides i + 1) =
      positions numStrides (i + 1) := by
  have inside := Nat.mod_lt i positive
  have next := next_mod positive.ne' i
  have length (i : Nat) : (positions numStrides i).length = numStrides := by
    rw [positions, List.length_map, List.length_range]
  refine List.ext_getElem? fun j => ?_
  rcases Nat.lt_or_ge j numStrides with below | beyond
  · rw [List.getElem?_set, length, getElem?_positions below, getElem?_positions below]
    split at next
    · -- the last of the iterators ends a turn
      rename_i last
      rw [← next, Nat.succ_div_of_mod_eq_zero next.symm]
      by_cases same : i % numStrides = j
      · subst same
        rw [if_pos rfl, if_pos inside, if_neg (Nat.not_lt_zero _)]
        rfl
      · rw [if_neg same, if_pos (by omega), if_neg (Nat.not_lt_zero _)]
        rfl
    · rw [← next, Nat.succ_div_of_mod_ne_zero (next ▸ Nat.succ_ne_zero _)]
      by_cases same : i % numStrides = j
      · subst same
        rw [if_pos rfl, if_pos inside, if_pos (Nat.lt_succ_self _)]
        rfl
      · rw [if_neg same]
        by_cases earlier : j < i % numStrides
        · rw [if_pos earlier, if_pos (by omega)]
        · rw [if_neg earlier, if_neg (by omega)]
  · rw [List.getElem?_eq_none (by rwa [List.length_set, length]),
      List.getElem?_eq_none (by rwa [length])]

/-- No place is beyond the last stride. -/
theorem stridePlace_lt (inside : i < IterateCold.kStride * numStrides) :
    stridePlace numStrides i < IterateCold.kStride * numStrides := by
  have positive : 0 < numStrides := Nat.pos_of_mul_pos_left (Nat.zero_lt_of_lt inside)
  have turn : i / numStrides < IterateCold.kStride := Nat.div_lt_of_lt_mul (by rwa [Nat.mul_comm])
  calc
    stridePlace numStrides i < IterateCold.kStride * (i % numStrides) + IterateCold.kStride :=
      Nat.add_lt_add_left turn _
    _ = IterateCold.kStride * (i % numStrides + 1) := (Nat.mul_succ _ _).symm
    _ ≤ IterateCold.kStride * numStrides := Nat.mul_le_mul_left _ (Nat.mod_lt i positive)

/-- The rounds of a sweep read different places. -/
theorem stridePlace_inj {j : Nat} (inside : i < IterateCold.kStride * numStrides)
    (inside' : j < IterateCold.kStride * numStrides)
    (same : stridePlace numStrides i = stridePlace numStrides j) : i = j := by
  have turn {i : Nat} (inside : i < IterateCold.kStride * numStrides) :
      i / numStrides < IterateCold.kStride := Nat.div_lt_of_lt_mul (by rwa [Nat.mul_comm])
  have first := turn inside
  have second := turn inside'
  have quotient : i / numStrides = j / numStrides := by
    have rest := congrArg (· % IterateCold.kStride) same
    simpa only [stridePlace, Nat.mul_add_mod, Nat.mod_eq_of_lt first, Nat.mod_eq_of_lt second]
      using rest
  have remainder : i % numStrides = j % numStrides := by
    rw [stridePlace, stridePlace, quotient] at same
    exact Nat.eq_of_mul_eq_mul_left (by decide) (Nat.add_right_cancel same)
  rw [← Nat.div_add_mod i numStrides, quotient, remainder, Nat.div_add_mod]

theorem perm_map_stridePlace (numStrides : Nat) :
    ((List.range (IterateCold.kStride * numStrides)).map (stridePlace numStrides)).Perm
      (List.range (IterateCold.kStride * numStrides)) := by
  have distinct :
      ((List.range (IterateCold.kStride * numStrides)).map (stridePlace numStrides)).Nodup :=
    List.Nodup.map_on (fun i member j member' same =>
      stridePlace_inj (List.mem_range.mp member) (List.mem_range.mp member') same) List.nodup_range
  have subset : (List.range (IterateCold.kStride * numStrides)).map (stridePlace numStrides) ⊆
      List.range (IterateCold.kStride * numStrides) := by
    intro _ member
    obtain ⟨i, inside, rfl⟩ := List.mem_map.mp member
    exact List.mem_range.mpr (stridePlace_lt (List.mem_range.mp inside))
  refine (List.subperm_of_subset distinct subset).perm_of_length_le ?_
  rw [List.length_map]

end

/-! ### The run -/

section

variable {elements : List (List Key)} {numStrides : Nat}

theorem readStride_eq {i : Nat} (positive : 0 < numStrides) {entry : List Key × Nat}
    (member : entry ∈ elements.zipIdx) :
    readStride (i % numStrides) (List.replicate elements.length (positions numStrides i)) entry =
      (accessOf List.toFinset (stridePlace numStrides i) entry).map fun access =>
        (positions numStrides (i + 1), access) := by
  have below : entry.2 < elements.length := List.snd_lt_of_mem_zipIdx member
  rw [readStride, List.getElem?_replicate, if_pos below, Option.bind_eq_bind, Option.bind_some,
    getElem?_positions_mod positive, Option.bind_eq_bind, Option.bind_some, accessOf,
    set_positions positive]
  cases entry.1[stridePlace numStrides i]? <;> rfl

/-- A round reads of each set the element at its place. -/
theorem strideRound_eq {i : Nat} (inside : i < IterateCold.kStride * numStrides)
    (long : ∀ row ∈ elements, IterateCold.kStride * numStrides ≤ row.length)
    (reads : List (Access Key)) :
    strideRound elements numStrides i
        ⟨List.replicate elements.length (positions numStrides i), reads⟩ =
      some ⟨List.replicate elements.length (positions numStrides (i + 1)),
        reads ++ elements.zipIdx.filterMap (accessOf List.toFinset (stridePlace numStrides i))⟩ ∧
    (elements.zipIdx.filterMap (accessOf List.toFinset (stridePlace numStrides i))).length =
      elements.length := by
  have positive : 0 < numStrides := Nat.pos_of_mul_pos_left (Nat.zero_lt_of_lt inside)
  have found : ∀ entry ∈ elements.zipIdx, ∃ access,
      accessOf List.toFinset (stridePlace numStrides i) entry = some access := by
    intro entry member
    have enough := long entry.1 (List.fst_mem_of_mem_zipIdx member)
    exact ⟨_, congrArg (Option.map _)
      (List.getElem?_eq_getElem ((stridePlace_lt inside).trans_le enough))⟩
  have length : (elements.zipIdx.filterMap
      (accessOf List.toFinset (stridePlace numStrides i))).length = elements.length := by
    rw [← @List.length_zipIdx _ elements 0]
    exact List.filterMap_length_eq_length.mpr fun entry member =>
      Option.isSome_iff_exists.mpr (found entry member)
  refine ⟨?_, length⟩
  have outcomes : elements.zipIdx.mapM (readStride (i % numStrides)
      (List.replicate elements.length (positions numStrides i))) =
        some ((elements.zipIdx.filterMap
          (accessOf List.toFinset (stridePlace numStrides i))).map fun access =>
            (positions numStrides (i + 1), access)) := by
    rw [← mapM_eq_some_map (fun access _ => rfl)]
    refine mapM_filterMap fun entry member => ?_
    obtain ⟨access, isAccess⟩ := found entry member
    refine ⟨access, isAccess, ?_⟩
    rw [readStride_eq positive member, isAccess]
    rfl
  refine Option.bind_eq_some_iff.mpr ⟨_, outcomes, ?_⟩
  rw [List.map_map, List.map_map]
  refine congrArg some (congr (congrArg Strides.mk ?_) (congrArg (reads ++ ·) (List.map_id _)))
  rw [← length]
  exact List.map_const'

/-- What holds after some rounds. Between sweeps the iterators do not matter. -/
structure Strided (elements : List (List Key)) (numStrides done : Nat) (state : Strides Key) :
    Prop where
  iterators : done % (IterateCold.kStride * numStrides) ≠ 0 → state.setIterators =
    List.replicate elements.length
      (positions numStrides (done % (IterateCold.kStride * numStrides)))
  hits : AllHit elements state.reads
  count : state.reads.length = done * elements.length
  order : ∀ j row, elements[j]? = some row → keysOf j state.reads = (List.range done).filterMap
    fun i => row[stridePlace numStrides (i % (IterateCold.kStride * numStrides))]?

theorem strided_sweep (positive : 0 < numStrides)
    (long : ∀ row ∈ elements, IterateCold.kStride * numStrides ≤ row.length) (budget : Nat) :
    ∃ final, sweep (IterateCold.kStride * numStrides)
        (fun state => { state with
          setIterators := List.replicate elements.length (positions numStrides 0) })
        (strideRound elements numStrides) budget 0 ⟨[], []⟩ = some final ∧
      Strided elements numStrides budget final := by
  have rounds : IterateCold.kStride * numStrides ≠ 0 := Nat.mul_ne_zero (by decide) positive.ne'
  have step : ∀ done state, Strided elements numStrides done state → ∃ next,
      strideRound elements numStrides (done % (IterateCold.kStride * numStrides))
          (if done % (IterateCold.kStride * numStrides) = 0 then
            { state with setIterators := List.replicate elements.length (positions numStrides 0) }
            else state) = some next ∧ Strided elements numStrides (done + 1) next := by
    rintro done ⟨setIterators, reads⟩ strided
    have inside := Nat.mod_lt done (Nat.pos_of_ne_zero rounds)
    have prepared : (if done % (IterateCold.kStride * numStrides) = 0 then
        (⟨List.replicate elements.length (positions numStrides 0), reads⟩ : Strides Key)
        else ⟨setIterators, reads⟩) = ⟨List.replicate elements.length
          (positions numStrides (done % (IterateCold.kStride * numStrides))), reads⟩ := by
      split
      · rename_i first
        rw [first]
      · rename_i later
        exact congrArg (Strides.mk · reads) (strided.iterators later)
    obtain ⟨round, length⟩ := strideRound_eq inside long reads
    have next := next_mod rounds done
    refine ⟨_, by rw [prepared]; exact round, fun later => ?_, allHit_append strided.hits _, ?_,
      fun j row found => ?_⟩
    · split at next
      · exact absurd next.symm later
      · rw [← next]
    · rw [List.length_append, length, strided.count, Nat.succ_mul]
    · have inRound := @keysOf_accessOf _ elements (stridePlace numStrides
        (done % (IterateCold.kStride * numStrides))) List.toFinset 0 j row found
      rw [Nat.zero_add] at inRound
      rw [keysOf_append, strided.order j row found, inRound, List.range_succ,
        List.filterMap_append]
      refine congrArg _ ?_
      rw [List.filterMap_cons]
      cases row[stridePlace numStrides (done % (IterateCold.kStride * numStrides))]? <;> rfl
  obtain ⟨final, runs, ends⟩ := sweep_invariant rounds step budget
    (⟨fun later => absurd (Nat.zero_mod _) later, fun _ none => (nomatch none),
      (Nat.zero_mul _).symm, fun _ _ _ => rfl⟩ : Strided elements numStrides 0 ⟨[], []⟩)
  rw [Nat.zero_mod] at runs
  rw [Nat.zero_add] at ends
  exact ⟨final, runs, ends⟩

omit [DecidableEq Key] in
theorem filterMap_getElem?_range (row : List Key) (count : Nat) :
    (List.range count).filterMap (fun i => row[i]?) = row.take count := by
  induction count with
  | zero => rw [List.range_zero, List.take_zero]; rfl
  | succ count inductionHypothesis =>
    rw [List.range_succ, List.filterMap_append, inductionHypothesis, List.take_add_one,
      List.filterMap_cons]
    cases row[count]? <;> rfl

omit [DecidableEq Key] in
/-- Over whole sweeps the places are those below the last stride. -/
theorem perm_places (row : List Key) (numStrides sweeps : Nat) :
    ((List.range (sweeps * (IterateCold.kStride * numStrides))).filterMap fun i =>
        row[stridePlace numStrides (i % (IterateCold.kStride * numStrides))]?).Perm
      (List.replicate sweeps (row.take (IterateCold.kStride * numStrides))).flatten := by
  induction sweeps with
  | zero => rw [Nat.zero_mul]; exact .nil
  | succ sweeps inductionHypothesis =>
    have last : ((List.range (IterateCold.kStride * numStrides)).map
        (sweeps * (IterateCold.kStride * numStrides) + ·)).filterMap (fun i =>
          row[stridePlace numStrides (i % (IterateCold.kStride * numStrides))]?) =
        ((List.range (IterateCold.kStride * numStrides)).map (stridePlace numStrides)).filterMap
          fun i => row[i]? := by
      rw [List.filterMap_map, List.filterMap_map]
      refine List.filterMap_congr fun i member => ?_
      rw [Function.comp_apply, Function.comp_apply, Nat.mul_add_mod_self_right,
        Nat.mod_eq_of_lt (List.mem_range.mp member)]
    have turn := (perm_map_stridePlace numStrides).filterMap fun i => row[i]?
    rw [filterMap_getElem?_range] at turn
    rw [Nat.succ_mul, List.range_add, List.filterMap_append, last, List.replicate_succ',
      List.flatten_append, List.flatten_singleton]
    exact inductionHypothesis.append turn

end

/-! ### What is read -/

section

variable {sets : List (Finset Key)} {elements : List (List Key)}

theorem map_length_elements (vectors : List.Forall₂ IsVectorOf sets elements) :
    elements.map List.length = sets.map Finset.card := by
  induction vectors with
  | nil => rfl
  | cons isVector _ inductionHypothesis =>
    rw [List.map_cons, List.map_cons, isVector.length_eq, inductionHypothesis]

/-- The smallest set is the last one. -/
theorem exists_back (sorted : SortedBySize sets) (nonempty : sets ≠ [])
    (vectors : List.Forall₂ IsVectorOf sets elements) : ∃ back ∈ elements,
      elements.getLast? = some back ∧ ∀ row ∈ elements, back.length ≤ row.length := by
  have descending : elements.Pairwise fun first second => second.length ≤ first.length := by
    have sizes : (sets.map Finset.card).Pairwise fun first second => second ≤ first :=
      List.pairwise_map.mpr sorted
    rw [← map_length_elements vectors] at sizes
    exact List.pairwise_map.mp sizes
  rcases List.eq_nil_or_concat elements with rfl | ⟨front, back, rfl⟩
  · cases vectors
    exact absurd rfl nonempty
  · rw [List.concat_eq_append] at descending ⊢
    refine ⟨back, List.mem_append_right _ List.mem_cons_self, List.getLast?_concat, ?_⟩
    refine List.forall_mem_append.mpr ⟨fun row member => ?_, List.forall_mem_singleton.mpr le_rfl⟩
    exact (List.pairwise_append.mp descending).2.2 row member back List.mem_cons_self

/-- The benchmark runs, however many rounds there are. -/
theorem iterateCold_strided (sorted : SortedBySize sets) (nonempty : sets ≠ [])
    (vectors : List.Forall₂ IsVectorOf sets elements) {back : List Key}
    (last : elements.getLast? = some back) (enough : IterateCold.kStride ≤ back.length) :
    (∀ row ∈ elements, IterateCold.kStride * (back.length / IterateCold.kStride) ≤ row.length) ∧
      ∀ budget, ∃ final, iterateCold elements budget = some final ∧
        Strided elements (back.length / IterateCold.kStride) budget final := by
  obtain ⟨_, -, last', least⟩ := exists_back sorted nonempty vectors
  cases last.symm.trans last'
  have strides : 0 < back.length / IterateCold.kStride := Nat.div_pos enough (by decide)
  have long : ∀ row ∈ elements,
      IterateCold.kStride * (back.length / IterateCold.kStride) ≤ row.length :=
    fun row member => (Nat.mul_div_le _ _).trans (least row member)
  refine ⟨long, fun budget => ?_⟩
  obtain ⟨final, runs, strided⟩ := strided_sweep strides long budget
  refine ⟨final, ?_, strided⟩
  have start : elements.mapM (fun row => startIterators row.length
      (back.length / IterateCold.kStride) 0) = some (List.replicate elements.length
        (positions (back.length / IterateCold.kStride) 0)) := by
    rw [← List.map_const', positions_zero]
    refine mapM_eq_some_map fun row member => startIterators_eq _ ?_
    rw [Nat.zero_add]
    exact long row member
  refine Option.bind_eq_some_iff.mpr ⟨back, last, ?_⟩
  refine Option.bind_eq_some_iff.mpr ⟨(), if_pos strides, ?_⟩
  exact Option.bind_eq_some_iff.mpr ⟨_, start, runs⟩

theorem kStride_le_back {minSize minTotalSize : Nat}
    (generated : IsGenerated minSize minTotalSize sets) (large : IterateCold.kStride ≤ minSize)
    (vectors : List.Forall₂ IsVectorOf sets elements) {back : List Key} (isBack : back ∈ elements) :
    IterateCold.kStride ≤ back.length := by
  obtain ⟨set, isSet, isVector⟩ := exists_of_forall₂ vectors.flip isBack
  rw [isVector.length_eq]
  exact large.trans (generated.sizes set isSet)

/-- All iterators stay inside their sets, however many rounds there are. Each sweep reads of each
set the elements below the last stride of the smallest set once, and so all of its elements if and
only if it has no others. -/
theorem iterateCold_reads {minSize minTotalSize : Nat}
    (generated : IsGenerated minSize minTotalSize sets) (positive : 0 < minTotalSize)
    (large : IterateCold.kStride ≤ minSize) (vectors : List.Forall₂ IsVectorOf sets elements) :
    ∃ back count, elements.getLast? = some back ∧
      count = IterateCold.kStride * (back.length / IterateCold.kStride) ∧
      ∀ budget, ∃ final, iterateCold elements budget = some final ∧
        final.reads.length = budget * sets.length ∧ AllHit elements final.reads ∧
        ∀ sweeps, budget = sweeps * count → ∀ j row, elements[j]? = some row →
          (keysOf j final.reads).Perm (List.replicate sweeps (row.take count)).flatten ∧
          (0 < sweeps → ((∀ key ∈ row, key ∈ keysOf j final.reads) ↔ row.length = count)) := by
  have nonempty : sets ≠ [] := by
    rintro rfl
    exact absurd generated.total (Nat.not_le.mpr positive)
  obtain ⟨back, isBack, last, -⟩ := exists_back generated.sorted nonempty vectors
  obtain ⟨long, run⟩ := iterateCold_strided generated.sorted nonempty vectors last
    (kStride_le_back generated large vectors isBack)
  refine ⟨back, _, last, rfl, fun budget => ?_⟩
  obtain ⟨final, runs, strided⟩ := run budget
  refine ⟨final, runs, strided.count.trans (by rw [vectors.length_eq]), strided.hits, ?_⟩
  rintro sweeps rfl j row found
  have perm := perm_places row (back.length / IterateCold.kStride) sweeps
  rw [← strided.order j row found] at perm
  refine ⟨perm, fun swept => ?_⟩
  have mem_iff (key : Key) : key ∈ keysOf j final.reads ↔
      key ∈ row.take (IterateCold.kStride * (back.length / IterateCold.kStride)) := by
    rw [perm.mem_iff, List.mem_flatten]
    constructor
    · rintro ⟨_, copy, member⟩
      exact List.eq_of_mem_replicate copy ▸ member
    · exact fun member => ⟨_, List.mem_replicate.mpr ⟨swept.ne', rfl⟩, member⟩
  constructor
  · intro all
    obtain ⟨set, -, isVector⟩ := exists_of_forall₂ vectors.flip (List.mem_of_getElem? found)
    have subset : row ⊆ row.take (IterateCold.kStride * (back.length / IterateCold.kStride)) :=
      fun key member => (mem_iff key).mp (all key member)
    have shorter := (List.subperm_of_subset isVector.distinct subset).length_le
    exact le_antisymm (shorter.trans (List.length_take_le _ _))
      (long row (List.mem_of_getElem? found))
  · intro exactly key member
    rw [mem_iff, List.take_of_length_le exactly.le]
    exact member

/-- Of forty and of twenty elements, one iterator of each set reads the first sixteen. -/
theorem iterateCold_reads_twoSets : ∃ back,
    [List.range 40, (List.range 20).reverse].getLast? = some back ∧ ∀ budget, ∃ final,
      iterateCold [List.range 40, (List.range 20).reverse] budget = some final ∧
      final.reads.length = budget * 2 ∧
      AllHit [List.range 40, (List.range 20).reverse] final.reads ∧
      ∀ sweeps, budget = sweeps * 16 → 0 < sweeps →
        (keysOf 0 final.reads).Perm (List.replicate sweeps (List.range 16)).flatten ∧
        (keysOf 1 final.reads).Perm (List.replicate sweeps (back.take 16)).flatten ∧
        ¬ (∀ key ∈ List.range 40, key ∈ keysOf 0 final.reads) ∧
        ¬ ∀ key ∈ back, key ∈ keysOf 1 final.reads := by
  obtain ⟨back, count, isBack, isCount, run⟩ := iterateCold_reads
    (⟨by decide, by decide, by decide, .inr ⟨_, _, .swap _ _ _, by decide⟩,
      List.pairwise_pair.mpr (by decide)⟩ :
      IsGenerated 16 50 [(List.range 40).toFinset, (List.range 20).reverse.toFinset])
    (by decide) (by decide) (.cons ⟨by decide, rfl⟩ (.cons ⟨by decide, rfl⟩ .nil))
  obtain rfl : (List.range 20).reverse = back := Option.some.inj isBack
  obtain rfl : count = 16 := isCount
  refine ⟨_, isBack, fun budget => ?_⟩
  obtain ⟨final, runs, length, hits, swept⟩ := run budget
  refine ⟨final, runs, length, hits, fun sweeps isBudget positive => ?_⟩
  obtain ⟨larger, allLarger⟩ := swept sweeps isBudget 0 (List.range 40) rfl
  obtain ⟨smaller, allSmaller⟩ := swept sweeps isBudget 1 (List.range 20).reverse rfl
  exact ⟨larger, smaller, fun all => absurd ((allLarger positive).mp all) (by decide),
    fun all => absurd ((allSmaller positive).mp all) (by decide)⟩

end

end Fleetbench.Swissmap
