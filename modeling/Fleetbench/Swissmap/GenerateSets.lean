/-
This file models `GenerateSet` and `GenerateSets`, and proves what their callers
rely on: every set has the size that is asked for, all sets together have the
total size, and they are sorted by size.

The keys that `RandomExistent` draws are parameters, and so is the number of
buckets of a container, which may depend on the set and on all that has been
inserted into it.
-/

import Fleetbench.Swissmap.Keys

namespace Fleetbench.Swissmap

variable {Key : Type} [DecidableEq Key]

/-! ### One set -/

inductive Density where
  | kMin
  | kMax
  deriving DecidableEq

/-- What one call of `GenerateSet` draws, and how the container grows with the elements inserted
into it, in this order. -/
structure Chance (Key : Type) where
  draws : List Key
  bucketCount : List Key → Nat

/-- A set that is filled, and its elements in the order of their insertion. -/
structure Filling (Key : Type) where
  output : Finset Key
  uniqueRandomElements : List Key

def Filling.insert (filling : Filling Key) (elem : Key) : Filling Key :=
  if elem ∈ filling.output then filling
  else ⟨Insert.insert elem filling.output, filling.uniqueRandomElements ++ [elem]⟩

/-- The loop that fills the set up to the target size; it returns the draws that are left. -/
def fillUp (targetSetSize : Nat) : List Key → Filling Key → Option (Filling Key × List Key)
  | [], filling => if filling.output.card < targetSetSize then none else some (filling, [])
  | elem :: draws, filling =>
    if filling.output.card < targetSetSize then fillUp targetSetSize draws (filling.insert elem)
    else some (filling, elem :: draws)

/-- The loop that adds elements until the number of buckets increases. -/
def growUntilResized (bucketCount : List Key → Nat) (density : Density) (buckets : Nat) :
    List Key → Filling Key → Option (Finset Key)
  | [], _ => none
  | elem :: draws, filling =>
    if elem ∈ filling.output then growUntilResized bucketCount density buckets draws filling
    else if buckets < bucketCount (filling.uniqueRandomElements ++ [elem]) then
      some (if density = .kMax then filling.uniqueRandomElements.toFinset
        else (filling.insert elem).output)
    else growUntilResized bucketCount density buckets draws (filling.insert elem)

def generateSet (chance : Chance Key) (minSize : Nat) (density : Density) :
    Option (Finset Key) := do
  let targetSetSize := if density = .kMax then minSize + 2 else minSize
  let (filling, draws) ← fillUp targetSetSize chance.draws ⟨∅, []⟩
  growUntilResized chance.bucketCount density (chance.bucketCount filling.uniqueRandomElements)
    draws filling

/-! ### Several sets -/

/-- The loop over the sets, one chance for each. -/
def generateFrom (minSize minTotalSize : Nat) (density : Density) :
    List (Chance Key) → Nat → List (Finset Key) → Option (List (Finset Key))
  | [], totalSize, generatedSets => if totalSize < minTotalSize then none else some generatedSets
  | chance :: chances, totalSize, generatedSets =>
    if totalSize < minTotalSize then do
      let set ← generateSet chance minSize density
      generateFrom minSize minTotalSize density chances (totalSize + set.card)
        (generatedSets ++ [set])
    else some generatedSets

/-- `GenerateSets`, which divides by the minimal size when it reserves space. -/
def generateSets (minSize minTotalSize : Nat) (density : Density) (chances : List (Chance Key)) :
    Option (List (Finset Key)) :=
  if minSize = 0 then none
  else
    (generateFrom minSize minTotalSize density chances 0 []).map fun generatedSets =>
      generatedSets.mergeSort fun first second => second.card ≤ first.card

/-- What the callers of `GenerateSets` may rely on. Only the set that was generated last makes the
total size large enough. -/
structure IsGenerated (minSize minTotalSize : Nat) (sets : List (Finset Key)) : Prop where
  positive : 0 < minSize
  sizes : ∀ set ∈ sets, minSize ≤ set.card
  total : minTotalSize ≤ (sets.map Finset.card).sum
  needed : sets = [] ∨ ∃ last others, sets.Perm (last :: others) ∧
    (others.map Finset.card).sum < minTotalSize
  sorted : SortedBySize sets

/-! ### The size of a set -/

/-- The set consists of the elements that have been inserted. -/
structure Filling.Lists (filling : Filling Key) : Prop where
  distinct : filling.uniqueRandomElements.Nodup
  toFinset : filling.uniqueRandomElements.toFinset = filling.output

theorem Filling.Lists.length_eq {filling : Filling Key} (lists : filling.Lists) :
    filling.uniqueRandomElements.length = filling.output.card := by
  rw [← lists.toFinset, List.toFinset_card_of_nodup lists.distinct]

theorem Filling.insert_of_notMem {filling : Filling Key} {elem : Key}
    (new : elem ∉ filling.output) : filling.insert elem =
      ⟨Insert.insert elem filling.output, filling.uniqueRandomElements ++ [elem]⟩ :=
  if_neg new

theorem Filling.Lists.insert {filling : Filling Key} (lists : filling.Lists) (elem : Key) :
    (filling.insert elem).Lists := by
  by_cases old : elem ∈ filling.output
  · rwa [Filling.insert, if_pos old]
  · rw [Filling.insert_of_notMem old]
    refine ⟨?_, ?_⟩
    · refine List.nodup_append.mpr ⟨lists.distinct, List.nodup_singleton elem, ?_⟩
      rintro other isListed new isNew rfl
      rw [List.mem_singleton.mp isNew] at isListed
      exact old (lists.toFinset ▸ List.mem_toFinset.mpr isListed)
    · rw [List.toFinset_append, lists.toFinset]
      exact (Finset.union_comm _ _).trans (Finset.insert_eq _ _).symm

theorem fillUp_lists {targetSetSize : Nat} {draws left : List Key}
    {filling filled : Filling Key} (lists : filling.Lists)
    (fills : fillUp targetSetSize draws filling = some (filled, left)) :
    filled.Lists ∧ targetSetSize ≤ filled.output.card := by
  induction draws generalizing filling with
  | nil =>
    rw [fillUp] at fills
    split at fills
    · cases fills
    · rename_i enough
      cases fills
      exact ⟨lists, not_lt.mp enough⟩
  | cons elem draws inductionHypothesis =>
    rw [fillUp] at fills
    split at fills
    · exact inductionHypothesis (lists.insert elem) fills
    · rename_i enough
      cases fills
      exact ⟨lists, not_lt.mp enough⟩

/-- The set does not get smaller than it is. -/
theorem card_le_growUntilResized {bucketCount : List Key → Nat} {density : Density}
    {buckets : Nat} {draws : List Key} {filling : Filling Key} {set : Finset Key}
    (lists : filling.Lists)
    (grows : growUntilResized bucketCount density buckets draws filling = some set) :
    filling.output.card ≤ set.card := by
  induction draws generalizing filling with
  | nil => cases grows
  | cons elem draws inductionHypothesis =>
    rw [growUntilResized] at grows
    split at grows
    · exact inductionHypothesis lists grows
    · rename_i new
      have larger : filling.output.card ≤ (filling.insert elem).output.card := by
        rw [Filling.insert_of_notMem new]
        exact Finset.card_le_card (Finset.subset_insert elem filling.output)
      split at grows
      · cases grows
        split
        · rw [lists.toFinset]
        · exact larger
      · exact larger.trans (inductionHypothesis (lists.insert elem) grows)

theorem minSize_le_generateSet {chance : Chance Key} {minSize : Nat} {density : Density}
    {set : Finset Key} (generates : generateSet chance minSize density = some set) :
    minSize ≤ set.card := by
  obtain ⟨⟨filling, draws⟩, fills, grows⟩ := Option.bind_eq_some_iff.mp generates
  obtain ⟨lists, enough⟩ := fillUp_lists ⟨List.nodup_nil, rfl⟩ fills
  have target : minSize ≤ if density = .kMax then minSize + 2 else minSize := by
    split
    · exact Nat.le_add_right minSize 2
    · exact le_rfl
  exact (target.trans enough).trans (card_le_growUntilResized lists grows)

/-! ### The vector of sets -/

theorem generateFrom_spec {minSize minTotalSize : Nat} {density : Density}
    {chances : List (Chance Key)} {before sets : List (Finset Key)}
    (sizes : ∀ set ∈ before, minSize ≤ set.card)
    (needed : before = [] ∨ ∃ last others, before.Perm (last :: others) ∧
      (others.map Finset.card).sum < minTotalSize)
    (generates : generateFrom minSize minTotalSize density chances
      (before.map Finset.card).sum before = some sets) :
    (∀ set ∈ sets, minSize ≤ set.card) ∧ minTotalSize ≤ (sets.map Finset.card).sum ∧
      (sets = [] ∨ ∃ last others, sets.Perm (last :: others) ∧
        (others.map Finset.card).sum < minTotalSize) := by
  induction chances generalizing before with
  | nil =>
    rw [generateFrom] at generates
    split at generates
    · cases generates
    · rename_i enough
      cases generates
      exact ⟨sizes, not_lt.mp enough, needed⟩
  | cons chance chances inductionHypothesis =>
    rw [generateFrom] at generates
    split at generates
    · rename_i more
      obtain ⟨set, isSet, generates⟩ := Option.bind_eq_some_iff.mp generates
      have total : (before.map Finset.card).sum + set.card =
          ((before ++ [set]).map Finset.card).sum := by
        rw [List.map_append, List.sum_append, List.map_singleton, List.sum_singleton]
      rw [total] at generates
      refine inductionHypothesis (List.forall_mem_append.mpr ⟨sizes, fun other member => ?_⟩)
        (.inr ⟨set, before, List.perm_append_singleton set before, more⟩) generates
      rw [List.mem_singleton.mp member]
      exact minSize_le_generateSet isSet
    · rename_i enough
      cases generates
      exact ⟨sizes, not_lt.mp enough, needed⟩

theorem isGenerated_generateSets {minSize minTotalSize : Nat} {density : Density}
    {chances : List (Chance Key)} {sets : List (Finset Key)}
    (generates : generateSets minSize minTotalSize density chances = some sets) :
    IsGenerated minSize minTotalSize sets := by
  rw [generateSets] at generates
  split at generates
  · cases generates
  · rename_i positive
    obtain ⟨generated, runs, rfl⟩ := Option.map_eq_some_iff.mp generates
    obtain ⟨sizes, total, needed⟩ :=
      generateFrom_spec (List.forall_mem_nil _) (.inl rfl) runs
    have perm := List.mergeSort_perm generated fun first second => second.card ≤ first.card
    refine ⟨Nat.pos_of_ne_zero positive, fun set member => sizes set (perm.mem_iff.mp member), ?_,
      ?_, ?_⟩
    · rwa [(perm.map Finset.card).sum_nat]
    · refine needed.imp (fun empty => ?_) fun ⟨last, others, isPerm, few⟩ =>
        ⟨last, others, perm.trans isPerm, few⟩
      rw [empty] at perm ⊢
      exact List.perm_nil.mp perm
    · refine (List.pairwise_mergeSort ?_ ?_ generated).imp of_decide_eq_true
      · intro first second third below below'
        exact decide_eq_true ((of_decide_eq_true below').trans (of_decide_eq_true below))
      · intro first second
        rcases Nat.le_total second.card first.card with below | below
        · rw [decide_eq_true below]
          rfl
        · rw [decide_eq_true below, Bool.or_true]

/-! ### Sets of any size -/

theorem insert_of_nodup {before draws : List Key} {elem : Key}
    (distinct : (before ++ elem :: draws).Nodup) : elem ∉ before.toFinset ∧
      Filling.insert ⟨before.toFinset, before⟩ elem =
        ⟨(before ++ [elem]).toFinset, before ++ [elem]⟩ := by
  have new : elem ∉ before.toFinset := fun old =>
    (List.nodup_append.mp distinct).2.2 elem (List.mem_toFinset.mp old) elem
      List.mem_cons_self rfl
  refine ⟨new, ?_⟩
  rw [Filling.insert_of_notMem new, List.toFinset_append]
  exact congrArg (Filling.mk · _) ((Finset.insert_eq _ _).trans (Finset.union_comm _ _))

/-- New draws are inserted until the set is large enough. -/
theorem fillUp_of_nodup {targetSetSize : Nat} {before draws : List Key}
    (distinct : (before ++ draws).Nodup) (few : before.length ≤ targetSetSize)
    (enough : targetSetSize ≤ (before ++ draws).length) :
    fillUp targetSetSize draws ⟨before.toFinset, before⟩ =
      some (⟨((before ++ draws).take targetSetSize).toFinset, (before ++ draws).take targetSetSize⟩,
        (before ++ draws).drop targetSetSize) := by
  have size : before.toFinset.card = before.length :=
    List.toFinset_card_of_nodup (List.nodup_append.mp distinct).1
  induction draws generalizing before with
  | nil =>
    rw [List.append_nil] at enough ⊢
    rw [fillUp, size, if_neg (not_lt.mpr enough), List.take_of_length_le few,
      List.drop_of_length_le few]
  | cons elem draws inductionHypothesis =>
    rw [fillUp, size]
    by_cases more : before.length < targetSetSize
    · obtain ⟨-, inserted⟩ := insert_of_nodup distinct
      rw [List.append_cons] at distinct enough ⊢
      rw [if_pos more, inserted]
      exact inductionHypothesis distinct (by rw [List.length_append]; exact more) enough
        (List.toFinset_card_of_nodup (List.nodup_append.mp distinct).1)
    · obtain rfl : before.length = targetSetSize := le_antisymm few (not_lt.mp more)
      rw [if_neg more, List.take_left, List.drop_left]

/-- A container that is resized at the last draw takes all draws. -/
theorem growUntilResized_of_nodup {before draws : List Key} (distinct : (before ++ draws).Nodup)
    (nonempty : draws ≠ []) {size : Nat} (isSize : (before ++ draws).length = size) :
    growUntilResized (fun inserted => if inserted.length < size then 0 else 1) .kMin 0 draws
      ⟨before.toFinset, before⟩ = some (before ++ draws).toFinset := by
  induction draws generalizing before with
  | nil => exact absurd rfl nonempty
  | cons elem draws inductionHypothesis =>
    obtain ⟨new, inserted⟩ := insert_of_nodup distinct
    rw [List.append_cons] at distinct isSize ⊢
    rw [growUntilResized, if_neg new, inserted]
    cases draws with
    | nil =>
      rw [List.append_nil] at isSize ⊢
      rw [if_pos (by rw [if_neg (not_lt.mpr isSize.ge)]; exact Nat.one_pos)]
      rfl
    | cons next draws =>
      have shorter : (before ++ [elem]).length < size := by
        rw [← isSize, @List.length_append _ (before ++ [elem])]
        exact Nat.lt_add_of_pos_right (Nat.succ_pos _)
      rw [if_neg (by rw [if_pos shorter]; exact lt_irrefl 0)]
      exact inductionHypothesis distinct (List.cons_ne_nil _ _) isSize

/-- These elements are drawn, and the container is resized at the last of them. -/
def resizedAtLast (elements : List Key) : Chance Key :=
  ⟨elements, fun inserted => if inserted.length < elements.length then 0 else 1⟩

/-- A set may get any size above the minimal one. -/
theorem generateSet_of_nodup {elements : List Key} (distinct : elements.Nodup) {minSize : Nat}
    (more : minSize < elements.length) :
    generateSet (resizedAtLast elements) minSize .kMin = some elements.toFinset := by
  have filled := @fillUp_of_nodup _ _ minSize [] elements distinct (Nat.zero_le minSize) more.le
  rw [List.nil_append, List.toFinset_nil] at filled
  have few : (elements.take minSize).length < elements.length := by
    rw [List.length_take]
    exact (Nat.min_le_left _ _).trans_lt more
  have left : elements.drop minSize ≠ [] := by
    intro none
    exact absurd (List.drop_eq_nil_iff.mp none) (not_le.mpr more)
  have grown := @growUntilResized_of_nodup _ _ (elements.take minSize) (elements.drop minSize)
    (by rwa [List.take_append_drop]) left _ (congrArg List.length (List.take_append_drop _ _))
  rw [List.take_append_drop] at grown
  rw [generateSet, resizedAtLast]
  simp only [reduceCtorEq, if_false, filled, Option.bind_eq_bind, Option.bind_some, if_pos few,
    grown]

end Fleetbench.Swissmap
