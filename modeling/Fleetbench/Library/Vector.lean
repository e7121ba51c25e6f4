/-
This file collects what in-place programs do to a growable array: removing an
element by moving the last one into its place, copying slots inside one array
by a list of moves, and running a list of single-slot writes.

A sequence of writes is read through its final value at one slot: a slot nobody
writes keeps its value, and a slot whose writers all agree holds the value they
agree on. A sequence of moves inside one array is the same as assigning all of
them at once from the old array as soon as no move reads a slot an earlier one
has written.
-/

import Mathlib.Tactic.Common
import Mathlib.Data.List.Count
import Mathlib.Data.List.Induction
import Mathlib.Data.List.Nodup
import Mathlib.Data.List.Perm.Basic

namespace Fleetbench.Library

variable {Value Image : Type}

/-! ### Removing an element by swapping in the last one -/

/-- Remove the element at `index` by moving the last element into its place. -/
def swapRemove (values : List Value) (index : Nat) : List Value :=
  match values.getLast? with
  | none => values
  | some last => (values.set index last).dropLast

theorem swapRemove_concat (front : List Value) (last : Value) (index : Nat) :
    swapRemove (front ++ [last]) index = ((front ++ [last]).set index last).dropLast := by
  rw [swapRemove, List.getLast?_append]
  rfl

theorem length_swapRemove (values : List Value) (index : Nat) :
    (swapRemove values index).length = values.length - 1 := by
  rcases List.eq_nil_or_concat' values with rfl | ⟨front, last, rfl⟩
  · rfl
  · rw [swapRemove_concat, List.length_dropLast, List.length_set]

/-- Swap-removal commutes with any relabelling of the elements. -/
theorem map_swapRemove (label : Value → Image) (values : List Value) (index : Nat) :
    (swapRemove values index).map label = swapRemove (values.map label) index := by
  rcases List.eq_nil_or_concat' values with rfl | ⟨front, last, rfl⟩
  · rfl
  · rw [swapRemove_concat, List.map_dropLast, List.map_set, List.map_append, List.map_cons,
      List.map_nil, swapRemove_concat]

/-- Below the new length, swap-removal changes only the slot it fills. -/
theorem getElem?_swapRemove (values : List Value) (index slot : Nat) :
    (swapRemove values index)[slot]? =
      if slot + 1 < values.length then
        if slot = index then values.getLast? else values[slot]?
      else none := by
  rcases List.eq_nil_or_concat' values with rfl | ⟨front, last, rfl⟩
  · rfl
  rw [swapRemove_concat, List.getElem?_dropLast, List.length_set, List.getElem?_set,
    List.length_append, List.length_singleton, List.getLast?_append]
  by_cases inside : slot < front.length
  · by_cases same : slot = index
    · subst same
      simp [inside, Nat.lt_succ_of_lt inside]
    · simp [inside, same, Ne.symm same]
  · simp [inside]

/-- Swap-removal drops exactly one occurrence of the removed element. -/
theorem perm_swapRemove {values : List Value} {index : Nat} {removed : Value}
    (found : values[index]? = some removed) :
    values.Perm (removed :: swapRemove values index) := by
  rcases List.eq_nil_or_concat' values with rfl | ⟨front, last, rfl⟩
  · simp at found
  rw [swapRemove_concat]
  by_cases inside : index < front.length
  · have removedEq : front[index] = removed := by
      rw [List.getElem?_append_left inside, List.getElem?_eq_getElem inside] at found
      exact Option.some.inj found
    rw [List.set_append_left _ _ inside, List.dropLast_concat]
    refine (List.perm_append_singleton last front).trans ?_
    have split : front = front.take index ++ removed :: front.drop (index + 1) := by
      rw [← removedEq, List.getElem_cons_drop, List.take_append_drop]
    have replaced : front.set index last = front.take index ++ last :: front.drop (index + 1) :=
      List.set_eq_take_append_cons_drop.trans (if_pos inside)
    rw [replaced]
    have moved : (last :: front).Perm
        (last :: removed :: (front.take index ++ front.drop (index + 1))) := by
      conv_lhs => rw [split]
      exact List.perm_middle.cons _
    exact (moved.trans (List.Perm.swap _ _ _)).trans (List.perm_middle.symm.cons _)
  · have atEnd : index = front.length := by
      have bound := (List.getElem?_eq_some_iff.mp found).1
      rw [List.length_append, List.length_singleton] at bound
      omega
    subst atEnd
    have removedEq : last = removed := by simpa using found
    subst removedEq
    rw [List.set_append_right _ _ (Nat.le_refl _), Nat.sub_self, List.set_cons_zero,
      List.dropLast_concat]
    exact List.perm_append_singleton last front

/-! ### Writing and copying slots -/

/-- Write one slot. Writing outside the array is an error. -/
def writeAt (values : List Value) (slot : Nat) (value : Value) : Option (List Value) :=
  if slot < values.length then some (values.set slot value) else none

theorem writeAt_of_lt {values : List Value} {slot : Nat} (bound : slot < values.length)
    (value : Value) : writeAt values slot value = some (values.set slot value) :=
  if_pos bound

theorem length_of_writeAt {values written : List Value} {slot : Nat} {value : Value}
    (write : writeAt values slot value = some written) : written.length = values.length := by
  rw [writeAt] at write
  split at write
  · cases write
    exact List.length_set
  · cases write

/-- A slot read after one write holds the written value, or is another slot. -/
theorem getElem?_set_cases {values : List Value} {slot other : Nat} {value found : Value}
    (read : (values.set slot value)[other]? = some found) :
    (other = slot ∧ found = value) ∨ (other ≠ slot ∧ values[other]? = some found) := by
  by_cases same : other = slot
  · subst same
    rw [List.getElem?_set] at read
    simp only [if_true] at read
    split at read
    · exact Or.inl ⟨rfl, (Option.some.inj read).symm⟩
    · cases read
  · rw [List.getElem?_set_ne (Ne.symm same)] at read
    exact Or.inr ⟨same, read⟩

/-- Writing back the value a slot holds changes nothing. -/
theorem set_of_getElem? {values : List Value} {slot : Nat} {value : Value}
    (found : values[slot]? = some value) : values.set slot value = values := by
  obtain ⟨bound, rfl⟩ := List.getElem?_eq_some_iff.mp found
  exact List.set_getElem_self bound

/-- A slot read after an append is an old slot or the new last one. -/
theorem getElem?_concat_cases {values : List Value} {last found : Value} {slot : Nat}
    (read : (values ++ [last])[slot]? = some found) :
    values[slot]? = some found ∨ (slot = values.length ∧ found = last) := by
  rcases Nat.lt_trichotomy slot values.length with inside | atEnd | outside
  · rw [List.getElem?_append_left inside] at read
    exact Or.inl read
  · subst atEnd
    rw [List.getElem?_concat_length] at read
    exact Or.inr ⟨rfl, (Option.some.inj read).symm⟩
  · have bound := (List.getElem?_eq_some_iff.mp read).1
    rw [List.length_append, List.length_singleton] at bound
    omega

/-- A slot that is written, or has a value, keeps it if all writes of the slot write that value. -/
theorem foldlM_writeAt {writes : List (Nat × Value)} {values : List Value}
    (bound : ∀ write ∈ writes, write.1 < values.length) : ∃ result,
      writes.foldlM (fun values write => writeAt values write.1 write.2) values = some result ∧
        result.length = values.length ∧
        ∀ slot value, (∀ write ∈ writes, write.1 = slot → write.2 = value) →
          (values[slot]? = some value ∨ ∃ write ∈ writes, write.1 = slot) →
            result[slot]? = some value := by
  induction writes generalizing values with
  | nil =>
    refine ⟨values, rfl, rfl, fun slot value _ known => known.resolve_right ?_⟩
    rintro ⟨write, member, -⟩
    cases member
  | cons write rest inductionHypothesis =>
    obtain ⟨firstBound, restBound⟩ := List.forall_mem_cons.mp bound
    have length : (values.set write.1 write.2).length = values.length := List.length_set
    obtain ⟨result, runs, sameLength, written⟩ :=
      @inductionHypothesis (values.set write.1 write.2) (by rwa [length])
    refine ⟨result, ?_, sameLength.trans length, fun slot value agree known => ?_⟩
    · rw [List.foldlM_cons, writeAt_of_lt firstBound]
      exact runs
    · obtain ⟨first, others⟩ := List.forall_mem_cons.mp agree
      refine written slot value others ?_
      by_cases here : write.1 = slot
      · left
        rw [← first here, ← here, List.getElem?_set_self firstBound]
      · rw [List.getElem?_set_ne here]
        refine known.imp_right fun ⟨other, member, isSlot⟩ => ⟨other, ?_, isSlot⟩
        exact (List.mem_cons.mp member).resolve_left fun same => here (same ▸ isSlot)

/-- Rows that hold the items of their place hold all items together. -/
theorem flatten_perm_of_filters {Item : Type*} {items : List Item} {rows : List (List Item)}
    (place : Item → Nat) (below : ∀ item ∈ items, place item < rows.length)
    (filters : ∀ slot row, rows[slot]? = some row →
      List.Perm row (items.filter fun item => place item = slot)) : rows.flatten.Perm items := by
  induction rows using List.reverseRecOn generalizing items with
  | nil =>
    rw [List.eq_nil_iff_forall_not_mem.mpr fun item member => Nat.not_lt_zero _ (below item member)]
    exact .refl _
  | append_singleton front last inductionHypothesis =>
    have isLast := filters front.length last List.getElem?_concat_length
    have others : front.flatten.Perm (items.filter fun item => ¬ place item = front.length) := by
      refine inductionHypothesis (fun item member => ?_) fun slot row isRow => ?_
      · obtain ⟨inside, different⟩ := List.mem_filter.mp member
        have bound := below item inside
        rw [List.length_append, List.length_singleton] at bound
        exact Nat.lt_of_le_of_ne (Nat.le_of_lt_succ bound) (of_decide_eq_true different)
      · have bound := (List.getElem?_eq_some_iff.mp isRow).1
        rw [List.filter_filter]
        refine (filters slot row ?_).trans (.of_eq (List.filter_congr fun item _ => ?_))
        · rw [List.getElem?_append_left bound]
          exact isRow
        · rw [← Bool.decide_and]
          refine decide_eq_decide.mpr ⟨fun same => ⟨same, ?_⟩, fun both => both.1⟩
          rw [same]
          exact Nat.ne_of_lt bound
    rw [List.flatten_append, List.flatten_singleton]
    refine (List.perm_append_comm.trans (isLast.append others)).trans ?_
    have split := List.filter_append_perm (fun item => decide (place item = front.length)) items
    refine .trans (.of_eq (congrArg _ (List.filter_congr fun item _ => ?_))) split
    exact decide_not

/-- Replacing one row of a table changes the number of occurrences of a value by what the two
rows differ in. -/
theorem count_flatten_set [DecidableEq Value] {rows : List (List Value)} {slot : Nat}
    {old : List Value} (found : rows[slot]? = some old) (new : List Value) (value : Value) :
    (rows.set slot new).flatten.count value + old.count value =
      rows.flatten.count value + new.count value := by
  induction rows generalizing slot with
  | nil => cases found
  | cons row rest inductionHypothesis =>
    cases slot with
    | zero =>
      cases found
      simp only [List.set_cons_zero, List.flatten_cons, List.count_append]
      omega
    | succ slot =>
      have shorter := inductionHypothesis (show rest[slot]? = some old from found)
      simp only [List.set_cons_succ, List.flatten_cons, List.count_append]
      omega

/-- One move: read slot `fromSlot`, write slot `toSlot`. -/
structure Move where
  fromSlot : Nat
  toSlot : Nat
  deriving DecidableEq, Repr

/-- Run the moves in order, reading every value from the fixed array `source`. -/
def copyFrom (source : List Value) : List Move → List Value → Option (List Value)
  | [], values => some values
  | move :: rest, values => do
    let value ← source[move.fromSlot]?
    let values ← writeAt values move.toSlot value
    copyFrom source rest values

/-- Run the moves in order inside one array, each reading what the earlier ones left. -/
def copyWithin : List Move → List Value → Option (List Value)
  | [], values => some values
  | move :: rest, values => do
    let value ← values[move.fromSlot]?
    let values ← writeAt values move.toSlot value
    copyWithin rest values

/-- Moves that read only slots no earlier move has written see the old array throughout. -/
theorem copyWithin_eq_copyFrom (source : List Value) (moves : List Move) (values : List Value)
    (agree : ∀ move ∈ moves, values[move.fromSlot]? = source[move.fromSlot]?)
    (ordered : moves.Pairwise fun earlier later => earlier.toSlot ≠ later.fromSlot) :
    copyWithin moves values = copyFrom source moves values := by
  induction moves generalizing values with
  | nil => rfl
  | cons move rest inductionHypothesis =>
    rw [copyWithin, copyFrom, agree move List.mem_cons_self]
    rw [List.pairwise_cons] at ordered
    cases source[move.fromSlot]? with
    | none => rfl
    | some value =>
      show (writeAt values move.toSlot value).bind (copyWithin rest) =
        (writeAt values move.toSlot value).bind (copyFrom source rest)
      unfold writeAt
      split
      · refine inductionHypothesis _ (fun later member => ?_) ordered.2
        rw [List.getElem?_set_ne (ordered.1 later member)]
        exact agree later (List.mem_cons_of_mem _ member)
      · rfl

/-- What a list of in-bounds moves from a fixed array leaves behind. -/
structure Copied (source : List Value) (moves : List Move) (values result : List Value) :
    Prop where
  length : result.length = values.length
  untouched : ∀ slot, (∀ move ∈ moves, move.toSlot ≠ slot) → result[slot]? = values[slot]?
  written : ∀ slot value, (∃ move ∈ moves, move.toSlot = slot) →
    (∀ move ∈ moves, move.toSlot = slot → source[move.fromSlot]? = some value) →
    result[slot]? = some value

theorem copyFrom_copied (source : List Value) (moves : List Move) (values : List Value)
    (readable : ∀ move ∈ moves, move.fromSlot < source.length)
    (writable : ∀ move ∈ moves, move.toSlot < values.length) :
    ∃ result, copyFrom source moves values = some result ∧
      Copied source moves values result := by
  induction moves generalizing values with
  | nil =>
    refine ⟨values, rfl, rfl, fun _ _ => rfl, ?_⟩
    rintro _ _ ⟨_, member, _⟩
    cases member
  | cons move rest inductionHypothesis =>
    have readBound := readable move List.mem_cons_self
    have writeBound := writable move List.mem_cons_self
    have restWritable : ∀ later ∈ rest,
        later.toSlot < (values.set move.toSlot source[move.fromSlot]).length := by
      intro later member
      rw [List.length_set]
      exact writable later (List.mem_cons_of_mem _ member)
    obtain ⟨result, run, copied⟩ := inductionHypothesis _
      (fun later member => readable later (List.mem_cons_of_mem _ member)) restWritable
    refine ⟨result, ?_, ?_, ?_, ?_⟩
    · rw [copyFrom, List.getElem?_eq_getElem readBound]
      show (writeAt values move.toSlot _).bind (copyFrom source rest) = _
      rw [writeAt_of_lt writeBound]
      exact run
    · rw [copied.length, List.length_set]
    · intro slot missed
      rw [copied.untouched slot fun later member => missed later (List.mem_cons_of_mem _ member),
        List.getElem?_set_ne (missed move List.mem_cons_self)]
    · intro slot value writer agree
      by_cases later : ∃ move ∈ rest, move.toSlot = slot
      · exact copied.written slot value later fun other member =>
          agree other (List.mem_cons_of_mem _ member)
      · have last : move.toSlot = slot := by
          obtain ⟨other, member, target⟩ := writer
          rcases List.mem_cons.mp member with rfl | inRest
          · exact target
          · exact absurd ⟨other, inRest, target⟩ later
        rw [copied.untouched slot fun other member target => later ⟨other, member, target⟩,
          ← last, List.getElem?_set_self writeBound, ← List.getElem?_eq_getElem readBound]
        exact agree move List.mem_cons_self last

/-- All moves at once: every slot that is moved to gets what was in the old array. -/
def assign (moves : List Move) (values : List Value) : List Value :=
  values.mapIdx fun slot value =>
    match moves.find? fun move => move.toSlot = slot with
    | some move => values.getD move.fromSlot value
    | none => value

theorem Copied.eq_assign {values result : List Value} {moves : List Move}
    (copied : Copied values moves values result)
    (readable : ∀ move ∈ moves, move.fromSlot < values.length)
    (target : ∀ move ∈ moves, ∀ other ∈ moves, move.toSlot = other.toSlot → move = other) :
    result = assign moves values := by
  refine List.ext_getElem? fun slot => ?_
  rw [assign, List.getElem?_mapIdx]
  by_cases inside : slot < values.length
  · rw [List.getElem?_eq_getElem inside, Option.map_some]
    split
    · rename_i move isFound
      have member := List.mem_of_find?_eq_some isFound
      have isTarget : move.toSlot = slot := by
        have accepted := List.find?_some isFound
        exact of_decide_eq_true accepted
      have isRead := List.getElem?_eq_getElem (readable move member)
      rw [List.getD_eq_getElem?_getD, isRead]
      refine copied.written slot _ ⟨move, member, isTarget⟩ fun other isOther same => ?_
      rw [target other isOther move member (same.trans isTarget.symm)]
      exact isRead
    · rename_i missing
      rw [copied.untouched slot fun move member => ?_, List.getElem?_eq_getElem inside]
      have notTarget := List.find?_eq_none.mp missing move member
      exact fun same => notTarget (decide_eq_true same)
  · have outside := Nat.le_of_not_lt inside
    rw [List.getElem?_eq_none outside, List.getElem?_eq_none (copied.length ▸ outside)]
    rfl

/-- Moves into different slots that read only slots no earlier move has written act at once. -/
theorem copyWithin_eq_assign {moves : List Move} {values : List Value}
    (ordered : moves.Pairwise fun earlier later => earlier.toSlot ≠ later.fromSlot)
    (readable : ∀ move ∈ moves, move.fromSlot < values.length)
    (writable : ∀ move ∈ moves, move.toSlot < values.length)
    (target : ∀ move ∈ moves, ∀ other ∈ moves, move.toSlot = other.toSlot → move = other) :
    copyWithin moves values = some (assign moves values) := by
  obtain ⟨result, run, copied⟩ := copyFrom_copied values moves values readable writable
  rw [copyWithin_eq_copyFrom values moves values (fun _ _ => rfl) ordered, run,
    copied.eq_assign readable target]

end Fleetbench.Library
