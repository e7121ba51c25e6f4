/-
This file models `BM_SWISSMAP_EraseInsert_Hot`, and proves that its set is a
window that slides over the keys: every pass erases keys that are present,
inserts keys that are not, and ends with the set it began with.
-/

import Fleetbench.Swissmap.Keys
import Fleetbench.Library.Vector
import Fleetbench.Library.Traverse

namespace Fleetbench.Swissmap

open Library

variable {Key : Type} [DecidableEq Key]

/-! ### The keys -/

def kMinKeyCount : Nat := 1 <<< 20

/-- The loop that appends the first keys again. -/
def copyFirst (setSize : Nat) (keys : List Key) : Option (List Key) :=
  (List.range setSize).foldlM (fun keys i => (keys[i]?).map fun key => keys ++ [key]) keys

/-- `keys` and `keys_size_effective`, from the shuffled elements of the set. -/
def hotKeys (s : Finset Key) (elements draws : List Key) : Option (List Key × Nat) := do
  let keys ← addExtraKeys s (fun size => size < kMinKeyCount || size < 3 * s.card) draws ∅ elements
  let keysSizeEffective := keys.length
  let keys ← copyFirst s.card keys
  return (keys, keysSizeEffective)

/-! ### The passes -/

/-- What has happened so far. -/
structure HotState (Key : Type) where
  s : Finset Key
  operations : List (EraseInsert Key)

/-- One iteration. An index out of bounds is an error. -/
def eraseInsertAt (keys : List Key) (setSize : Nat) (state : HotState Key) (i : Nat) :
    Option (HotState Key) := do
  let erased ← keys[i]?
  let inserted ← keys[i + setSize]?
  let operation := ⟨state.s, erased, inserted⟩
  return ⟨operation.after, state.operations ++ [operation]⟩

/-- One pass of the `while` loop. -/
def eraseInsertPass (keys : List Key) (setSize keysSizeEffective : Nat) (state : HotState Key) :
    Option (HotState Key) :=
  (List.range keysSizeEffective).foldlM (eraseInsertAt keys setSize) state

/-- As many passes as `KeepRunningBatch` admits. -/
def eraseInsertPasses (keys : List Key) (setSize keysSizeEffective : Nat) :
    Nat → HotState Key → Option (HotState Key)
  | 0, state => some state
  | passes + 1, state => do
    let next ← eraseInsertPass keys setSize keysSizeEffective state
    eraseInsertPasses keys setSize keysSizeEffective passes next

/-! ### The window -/

/-- The operation is that of iteration `i`, on the window that starts there. -/
structure Slides (keys : List Key) (setSize i : Nat) (operation : EraseInsert Key) : Prop where
  before : operation.before = (window keys setSize i).toFinset
  erased : keys[i]? = some operation.erased
  inserted : keys[i + setSize]? = some operation.inserted
  sound : operation.Sound

omit [DecidableEq Key] in
theorem copyFirst_eq {keys : List Key} {setSize : Nat} (bound : setSize ≤ keys.length) :
    copyFirst setSize keys = some (keys ++ keys.take setSize) := by
  induction setSize with
  | zero => exact congrArg some (List.append_nil keys).symm
  | succ setSize inductionHypothesis =>
    have copied := inductionHypothesis (Nat.le_of_succ_le bound)
    rw [copyFirst] at copied ⊢
    rw [foldlM_range_succ, copied, Option.bind_some, List.getElem?_append_left bound,
      List.getElem?_eq_getElem bound, List.take_succ_eq_append_getElem bound, ← List.append_assoc]
    rfl

section

variable {cycle : List Key} {setSize : Nat} (distinct : cycle.Nodup)
  (positive : 0 < setSize) (narrow : setSize < cycle.length)

include distinct positive narrow

/-- One iteration moves the window by one key. -/
theorem eraseInsertAt_window {i : Nat} (inside : i < cycle.length) : ∃ operation,
    Slides (cycle ++ cycle.take setSize) setSize i operation ∧
      ∀ operations, eraseInsertAt (cycle ++ cycle.take setSize) setSize
        ⟨(window (cycle ++ cycle.take setSize) setSize i).toFinset, operations⟩ i =
          some ⟨(window (cycle ++ cycle.take setSize) setSize (i + 1)).toFinset,
            operations ++ [operation]⟩ := by
  have length : (cycle ++ cycle.take setSize).length = cycle.length + setSize := by
    rw [List.length_append, List.length_take, min_eq_left narrow.le]
  obtain ⟨width, rfl⟩ := Nat.exists_eq_add_one_of_ne_zero positive.ne'
  obtain ⟨erased, isErased⟩ : ∃ erased, (cycle ++ cycle.take (width + 1))[i]? = some erased :=
    ⟨_, List.getElem?_eq_getElem (by omega)⟩
  obtain ⟨inserted, isInserted⟩ : ∃ inserted,
      (cycle ++ cycle.take (width + 1))[i + (width + 1)]? = some inserted :=
    ⟨_, List.getElem?_eq_getElem (by omega)⟩
  obtain ⟨present, absent, moved⟩ := toFinset_window_succ isErased isInserted
    (nodup_window_unrolled distinct inside narrow)
  refine ⟨⟨_, erased, inserted⟩, ⟨rfl, isErased, isInserted, ⟨present, absent⟩⟩,
    fun operations => ?_⟩
  rw [eraseInsertAt, isErased, isInserted, ← moved]
  rfl

/-- The iterations of a pass move the window over the keys. -/
theorem foldlM_window {count : Nat} (bound : count ≤ cycle.length) : ∃ operations,
    operations.length = count ∧
      (∀ i operation, operations[i]? = some operation →
        Slides (cycle ++ cycle.take setSize) setSize i operation) ∧
      ∀ before, (List.range count).foldlM (eraseInsertAt (cycle ++ cycle.take setSize) setSize)
        ⟨(window (cycle ++ cycle.take setSize) setSize 0).toFinset, before⟩ =
          some ⟨(window (cycle ++ cycle.take setSize) setSize count).toFinset,
            before ++ operations⟩ := by
  induction count with
  | zero =>
    refine ⟨[], rfl, fun i operation found => (nomatch found), fun before => ?_⟩
    rw [List.append_nil]
    rfl
  | succ count inductionHypothesis =>
    obtain ⟨operations, length, slides, runs⟩ := inductionHypothesis (Nat.le_of_succ_le bound)
    obtain ⟨operation, slide, step⟩ := eraseInsertAt_window distinct positive narrow bound
    refine ⟨operations ++ [operation], ?_, fun i other found => ?_, fun before => ?_⟩
    · rw [List.length_append, length, List.length_singleton]
    · rcases getElem?_concat_cases found with earlier | ⟨rfl, rfl⟩
      · exact slides i other earlier
      · rwa [length]
    · rw [foldlM_range_succ, runs, Option.bind_some, step, List.append_assoc]

/-- A pass ends with the window it began with. -/
theorem eraseInsertPasses_window : ∃ operations,
    operations.length = cycle.length ∧
      (∀ i operation, operations[i]? = some operation →
        Slides (cycle ++ cycle.take setSize) setSize i operation) ∧
      ∀ passes before, eraseInsertPasses (cycle ++ cycle.take setSize) setSize cycle.length passes
        ⟨(window (cycle ++ cycle.take setSize) setSize 0).toFinset, before⟩ =
          some ⟨(window (cycle ++ cycle.take setSize) setSize 0).toFinset,
            before ++ (List.replicate passes operations).flatten⟩ := by
  obtain ⟨operations, length, slides, runs⟩ :=
    foldlM_window distinct positive narrow (Nat.le_refl cycle.length)
  refine ⟨operations, length, slides, fun passes => ?_⟩
  induction passes with
  | zero =>
    intro before
    rw [List.replicate_zero, List.flatten_nil, List.append_nil]
    rfl
  | succ passes inductionHypothesis =>
    intro before
    rw [eraseInsertPasses, eraseInsertPass, runs, window_length narrow.le, List.replicate_succ,
      List.flatten_cons, ← List.append_assoc]
    exact inductionHypothesis (before ++ operations)

end

/-- The keys of the benchmark: the elements of the set, new ones up to the size that is wanted, and
the elements once more. -/
structure Unrolled (s : Finset Key) (elements keys : List Key) (keysSizeEffective : Nat) :
    Prop where
  parts : ∃ added, keys = elements ++ added ++ elements ∧ (elements ++ added).Nodup ∧
    (elements ++ added).length = keysSizeEffective ∧ ∀ key ∈ added, key ∉ s
  size : keysSizeEffective = max kMinKeyCount (3 * s.card)

theorem unrolled_of_hotKeys {s : Finset Key} {elements draws keys : List Key}
    {keysSizeEffective : Nat} (nonempty : s.Nonempty) (isVector : IsVectorOf s elements)
    (built : hotKeys s elements draws = some (keys, keysSizeEffective)) :
    Unrolled s elements keys keysSizeEffective := by
  obtain ⟨cycle, extended, built⟩ := Option.bind_eq_some_iff.mp built
  obtain ⟨unrolled, copied, built⟩ := Option.bind_eq_some_iff.mp built
  cases built
  have isExtended := extends_of_addExtraKeys extended
  have distinct := nodup_of_extends isVector isExtended
  have positive := Finset.card_pos.mpr nonempty
  have first := isVector.length_eq
  have enough := isExtended.enough
  simp only [Bool.or_eq_false_iff, decide_eq_false_iff_not] at enough
  -- The last key was still needed.
  have needed := isExtended.needed (cycle.length - 1) (by omega) (by omega)
  simp only [Bool.or_eq_true, decide_eq_true_eq] at needed
  rw [copyFirst_eq (by omega)] at copied
  cases copied
  obtain ⟨added, rfl, -, new⟩ := isExtended.added
  refine ⟨⟨added, ?_, distinct, rfl, fun key member => (new key member).1⟩, by omega⟩
  rw [← first, List.take_left]

/-- Before iteration `i` of every pass the set consists of the keys from `i` on, the erased key is
there, the inserted one is not, and the pass ends with the set it began with. -/
theorem eraseInsertHot_slides (s : Finset Key) (nonempty : s.Nonempty)
    (elements draws keys : List Key) (keysSizeEffective : Nat) (isVector : IsVectorOf s elements)
    (built : hotKeys s elements draws = some (keys, keysSizeEffective)) :
    Unrolled s elements keys keysSizeEffective ∧ ∃ operations,
      operations.length = keysSizeEffective ∧
      (∀ i operation, operations[i]? = some operation → Slides keys s.card i operation) ∧
      ∀ passes, eraseInsertPasses keys s.card keysSizeEffective passes ⟨s, []⟩ =
        some ⟨s, (List.replicate passes operations).flatten⟩ := by
  have unrolled := unrolled_of_hotKeys nonempty isVector built
  refine ⟨unrolled, ?_⟩
  obtain ⟨added, rfl, distinct, rfl, -⟩ := unrolled.parts
  have positive := Finset.card_pos.mpr nonempty
  have narrow : s.card < (elements ++ added).length := by
    have size := unrolled.size
    omega
  have first : (elements ++ added).take s.card = elements := by
    rw [← isVector.length_eq, List.take_left]
  obtain ⟨operations, length, slides, runs⟩ :=
    eraseInsertPasses_window distinct positive narrow
  rw [window_zero narrow.le, first, isVector.toFinset] at runs
  rw [first] at slides
  exact ⟨operations, length, slides, fun passes => runs passes []⟩

/-- Draws that are all new and as many as are missing. -/
theorem hotKeys_of_fresh {s : Finset Key} {elements draws : List Key}
    (isVector : IsVectorOf s elements) (few : 3 * s.card ≤ kMinKeyCount) (distinct : draws.Nodup)
    (fresh : ∀ key ∈ draws, key ∉ s) (count : s.card + draws.length = kMinKeyCount) :
    hotKeys s elements draws = some (elements ++ draws ++ elements, kMinKeyCount) := by
  have first := isVector.length_eq
  have length : (elements ++ draws).length = kMinKeyCount := by
    rw [List.length_append, first, count]
  have built : addExtraKeys s (fun size => size < kMinKeyCount || size < 3 * s.card) draws ∅
      elements = some (elements ++ draws) := by
    refine addExtraKeys_of_fresh distinct
      (fun key member => ⟨fresh key member, Finset.notMem_empty key⟩) (fun size _ below => ?_) ?_
    · rw [decide_eq_true (show size < kMinKeyCount by omega), Bool.true_or]
    · rw [first, count, decide_eq_false (lt_irrefl _), decide_eq_false (not_lt_of_ge few)]
      rfl
  rw [hotKeys, built, Option.bind_eq_bind, Option.bind_some, copyFirst_eq (by omega), ← first,
    List.take_left, length]
  rfl

/-- Three elements in another order, and the numbers behind them. -/
theorem eraseInsertHot_slides_three : ∃ keys operations,
    hotKeys {0, 1, 2} [2, 0, 1] ((List.range 1048573).map (· + 3)) = some (keys, kMinKeyCount) ∧
      Unrolled {0, 1, 2} [2, 0, 1] keys kMinKeyCount ∧
      operations.length = kMinKeyCount ∧
      (∀ i operation, operations[i]? = some operation → Slides keys 3 i operation) ∧
      eraseInsertPasses keys 3 kMinKeyCount 2 ⟨{0, 1, 2}, []⟩ =
        some ⟨{0, 1, 2}, operations ++ operations⟩ := by
  have isVector : IsVectorOf {0, 1, 2} [2, 0, 1] := ⟨by decide, by decide⟩
  have isCount : kMinKeyCount = 1048576 := by decide
  have three : ({0, 1, 2} : Finset Nat).card = 3 := rfl
  have built := @hotKeys_of_fresh Nat _ {0, 1, 2} [2, 0, 1] ((List.range 1048573).map (· + 3))
    isVector (by rw [three, isCount]; decide)
    (List.nodup_range.map (add_left_injective 3)) (List.forall_mem_map.mpr fun index _ => by
      simp only [Finset.mem_insert, Finset.mem_singleton]
      omega) (by rw [three, isCount, List.length_map, List.length_range])
  obtain ⟨unrolled, operations, length, slides, runs⟩ :=
    eraseInsertHot_slides {0, 1, 2} ⟨0, by decide⟩ [2, 0, 1] _ _ _ isVector built
  refine ⟨_, operations, built, unrolled, length, slides, (runs 2).trans ?_⟩
  rw [List.replicate_succ, List.replicate_one, List.flatten_cons, List.flatten_singleton]

end Fleetbench.Swissmap
