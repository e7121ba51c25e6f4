/-
This file models how the swissmap benchmarks choose their keys, and what they
record of them: vectors of the elements of sets, keys that are added by chance,
and pairs of an `erase` and an `insert`.

A hash set is the finite set of its elements. The order in which `ToVector`
lists them, every shuffle and every draw of `RandomExistent` are parameters.
-/

import Fleetbench.Library.Window
import Mathlib.Data.Finset.Card
import Mathlib.Algebra.Ring.Nat

namespace Fleetbench.Swissmap

open Library

variable {Key : Type} [DecidableEq Key]

/-! ### Vectors of elements -/

/-- What `ToVector` returns, shuffled or not: every element once. -/
structure IsVectorOf (set : Finset Key) (elements : List Key) : Prop where
  distinct : elements.Nodup
  toFinset : elements.toFinset = set

theorem IsVectorOf.mem_iff {set : Finset Key} {elements : List Key}
    (isVector : IsVectorOf set elements) {key : Key} : key ∈ elements ↔ key ∈ set := by
  rw [← isVector.toFinset, List.mem_toFinset]

theorem IsVectorOf.length_eq {set : Finset Key} {elements : List Key}
    (isVector : IsVectorOf set elements) : elements.length = set.card := by
  rw [← isVector.toFinset, List.toFinset_card_of_nodup isVector.distinct]

/-! ### Keys that are added -/

/-- The loop that draws keys while `more` says so, and adds those that are neither in the set nor
among the `extra` keys yet. -/
def addExtraKeys (set : Finset Key) (more : Nat → Bool) :
    List Key → Finset Key → List Key → Option (List Key)
  | [], _, keys => if more keys.length then none else some keys
  | key :: draws, extra, keys =>
    if more keys.length then
      if key ∉ set ∧ key ∉ extra then addExtraKeys set more draws (insert key extra) (keys ++ [key])
      else addExtraKeys set more draws extra keys
    else some keys

/-- The keys behind the first ones are different, new, and as many as there should be. -/
structure Extends (set : Finset Key) (more : Nat → Bool) (extra : Finset Key)
    (keys result : List Key) : Prop where
  added : ∃ added, result = keys ++ added ∧ added.Nodup ∧ ∀ key ∈ added, key ∉ set ∧ key ∉ extra
  enough : more result.length = false
  needed : ∀ size, keys.length ≤ size → size < result.length → more size = true

omit [DecidableEq Key] in
theorem extends_refl {set : Finset Key} {more : Nat → Bool} {extra : Finset Key}
    {keys : List Key} (enough : more keys.length = false) : Extends set more extra keys keys where
  added := ⟨[], (List.append_nil keys).symm, .nil, fun _ member => nomatch member⟩
  enough := enough
  needed _ atLeast below := absurd below (not_lt_of_ge atLeast)

theorem extends_of_addExtraKeys {set : Finset Key} {more : Nat → Bool} {draws : List Key}
    {extra : Finset Key} {keys result : List Key}
    (builds : addExtraKeys set more draws extra keys = some result) :
    Extends set more extra keys result := by
  induction draws generalizing extra keys with
  | nil =>
    rw [addExtraKeys] at builds
    split at builds
    · cases builds
    · rename_i enough
      cases builds
      exact extends_refl (Bool.eq_false_of_not_eq_true enough)
  | cons key draws inductionHypothesis =>
    rw [addExtraKeys] at builds
    split at builds
    · rename_i wanted
      split at builds
      · rename_i fresh
        obtain ⟨⟨added, isResult, distinct, new⟩, enough, needed⟩ := inductionHypothesis builds
        refine ⟨⟨key :: added, ?_, ?_, ?_⟩, enough, fun size atLeast below => ?_⟩
        · rw [isResult, List.append_assoc]
          rfl
        · refine List.nodup_cons.mpr ⟨fun member => ?_, distinct⟩
          exact (new key member).2 (Finset.mem_insert_self key extra)
        · refine List.forall_mem_cons.mpr ⟨fresh, fun other member => ?_⟩
          exact ⟨(new other member).1, fun old => (new other member).2
            (Finset.mem_insert_of_mem old)⟩
        · rcases Nat.eq_or_lt_of_le atLeast with same | later
          · rwa [← same]
          · refine needed size ?_ below
            rw [List.length_append]
            exact later
      · exact inductionHypothesis builds
    · rename_i enough
      cases builds
      exact extends_refl (Bool.eq_false_of_not_eq_true enough)

/-- Draws that are all new, and just enough, are all added. -/
theorem addExtraKeys_of_fresh {set : Finset Key} {more : Nat → Bool} {draws : List Key}
    {extra : Finset Key} {keys : List Key} (distinct : draws.Nodup)
    (fresh : ∀ key ∈ draws, key ∉ set ∧ key ∉ extra)
    (wanted : ∀ size, keys.length ≤ size → size < keys.length + draws.length → more size = true)
    (enough : more (keys.length + draws.length) = false) :
    addExtraKeys set more draws extra keys = some (keys ++ draws) := by
  induction draws generalizing extra keys with
  | nil =>
    rw [List.length_nil, Nat.add_zero] at enough
    rw [addExtraKeys, enough, List.append_nil]
    rfl
  | cons key draws inductionHypothesis =>
    obtain ⟨isFresh, others⟩ := List.nodup_cons.mp distinct
    obtain ⟨keyFresh, drawsFresh⟩ := List.forall_mem_cons.mp fresh
    rw [List.length_cons] at wanted enough
    have length : (keys ++ [key]).length + draws.length = keys.length + (draws.length + 1) := by
      rw [List.length_append, List.length_singleton, Nat.add_assoc, Nat.add_comm 1]
    rw [addExtraKeys, if_pos (wanted _ le_rfl (by omega)), if_pos keyFresh,
      List.append_cons keys key draws]
    refine inductionHypothesis others (fun other member => ?_) (fun size atLeast below => ?_) ?_
    · obtain ⟨notInSet, notExtra⟩ := drawsFresh other member
      refine ⟨notInSet, fun isExtra => ?_⟩
      rcases Finset.mem_insert.mp isExtra with rfl | old
      · exact isFresh member
      · exact notExtra old
    · rw [length] at below
      rw [List.length_append] at atLeast
      exact wanted size (Nat.le_of_add_right_le atLeast) below
    · rwa [length]

/-- The elements of a set and the keys added to them are different. -/
theorem nodup_of_extends {set : Finset Key} {more : Nat → Bool} {extra : Finset Key}
    {elements result : List Key} (isVector : IsVectorOf set elements)
    (extended : Extends set more extra elements result) : result.Nodup := by
  obtain ⟨added, rfl, distinct, new⟩ := extended.added
  refine List.nodup_append.mpr ⟨isVector.distinct, distinct, ?_⟩
  rintro key member other isAdded rfl
  exact (new key isAdded).1 (isVector.mem_iff.mp member)

/-! ### Sets of several sizes -/

/-- `GetLargestSetSize`, the size of the first set. -/
def getLargestSetSize (sets : List (Finset Key)) : Nat := (sets.head?.map Finset.card).getD 0

/-- The sets are sorted by size in descending order. -/
def SortedBySize (sets : List (Finset Key)) : Prop :=
  sets.Pairwise fun first second => second.card ≤ first.card

omit [DecidableEq Key] in
theorem card_le_largest {sets : List (Finset Key)} (sorted : SortedBySize sets)
    {set : Finset Key} (member : set ∈ sets) : set.card ≤ getLargestSetSize sets := by
  cases sets with
  | nil => cases member
  | cons first rest =>
    rcases List.mem_cons.mp member with rfl | later
    · exact le_rfl
    · exact (List.pairwise_cons.mp sorted).1 set later

/-- The row of a set in `GetExtendedKeys`. -/
def extendedKeys (set : Finset Key) (numKeys : Nat) (elements draws : List Key) :
    Option (List Key) :=
  addExtraKeys set (fun size => size < numKeys) draws ∅ elements

/-- The row has the elements of the set first, and then different keys that are not in it. -/
structure IsExtended (set : Finset Key) (numKeys : Nat) (row : List Key) : Prop where
  parts : ∃ elements added, row = elements ++ added ∧ IsVectorOf set elements ∧ added.Nodup ∧
    ∀ key ∈ added, key ∉ set
  length : row.length = numKeys

theorem isExtended_extendedKeys {set : Finset Key} {numKeys : Nat} {elements draws row : List Key}
    (isVector : IsVectorOf set elements) (bound : set.card ≤ numKeys)
    (built : extendedKeys set numKeys elements draws = some row) : IsExtended set numKeys row := by
  obtain ⟨⟨added, isRow, distinct, new⟩, enough, needed⟩ := extends_of_addExtraKeys built
  refine ⟨⟨elements, added, isRow, isVector, distinct, fun key member => (new key member).1⟩, ?_⟩
  refine le_antisymm ?_ (not_lt.mp (of_decide_eq_false enough))
  by_contra more
  have fits := isVector.length_eq.trans_le bound
  exact lt_irrefl numKeys (of_decide_eq_true (needed numKeys fits (not_le.mp more)))

/-! ### Erasing and inserting -/

/-- A key that is erased from a set, and one that is inserted behind that. -/
structure EraseInsert (Key : Type) where
  before : Finset Key
  erased : Key
  inserted : Key

/-- The set between the two. -/
def EraseInsert.between (operation : EraseInsert Key) : Finset Key :=
  operation.before.erase operation.erased

def EraseInsert.after (operation : EraseInsert Key) : Finset Key :=
  insert operation.inserted operation.between

/-- The erased key is present, and the inserted one is not. -/
structure EraseInsert.Sound (operation : EraseInsert Key) : Prop where
  present : operation.erased ∈ operation.before
  absent : operation.inserted ∉ operation.between

end Fleetbench.Swissmap
