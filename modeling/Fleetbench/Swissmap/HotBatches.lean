/-
This file models `LookupHit_Hot`, `BM_SWISSMAP_Iterate_Hot` and
`BM_SWISSMAP_InsertManyOrdered_Hot`, and compares the operations of their batches
with the numbers that they pass to `KeepRunningBatch`. The latter are computed
from the size of the first set, so they are right only if all sets have that
size.

The order in which a set is iterated over is a parameter; it depends on the
place of the set, since equal sets may be laid out differently.
-/

import Fleetbench.Swissmap.GenerateSets
import Fleetbench.Swissmap.ColdSchedule
import Mathlib.Algebra.BigOperators.Ring.List
import Mathlib.Algebra.Ring.Nat

namespace Fleetbench.Swissmap

open Library

/-! ### Batches -/

/-- A value is converted to `size_t`. -/
def toSizeT (value : Nat) : Nat := value % 2 ^ 64

/-- What is passed to `KeepRunningBatch`, and the keys that each set is operated on with in the
batch that this admits. -/
structure Batch where
  argument : Nat
  operations : List (List UInt32)

def Batch.executed (batch : Batch) : Nat := (batch.operations.map List.length).sum

/-- The loop that all three benchmarks share, for as many batches as `KeepRunningBatch` admits:
what is done to a set, given its place, returns the set behind that and the keys. -/
def runBatches (factor : Nat)
    (operate : Finset UInt32 × Nat → Option (Finset UInt32 × List UInt32)) :
    Nat → List (Finset UInt32) → Option (List Batch)
  | 0, _ => some []
  | budget + 1, sets => do
    let front ← sets.head?
    let outcomes ← sets.zipIdx.mapM operate
    let batches ← runBatches factor operate budget (outcomes.map Prod.fst)
    return ⟨toSizeT (sets.length * front.card * factor), outcomes.map Prod.snd⟩ :: batches

/-! ### The benchmarks -/

def LookupHitHot.kMinTotalKeyCount : Nat := 64 <<< 10

def LookupHitHot.kOpsPerKey : Nat := 512

/-- `std::vector::resize`, which appends zeros. -/
def resize (keys : List UInt32) (size : Nat) : List UInt32 :=
  keys.take size ++ List.replicate (size - keys.length) 0

/-- The sets of `LookupHit_Hot`, given the shuffled elements of a single set. -/
def replaceSingle (sets : List (Finset UInt32)) (shuffled : List UInt32) : List (Finset UInt32) :=
  match sets with
  | [_] => [(resize shuffled LookupHitHot.kMinTotalKeyCount).toFinset]
  | _ => sets

section

variable (order : Nat → Finset UInt32 → List UInt32)

/-- The keys that `LookupHit_Hot` looks up in a set. -/
def lookedUp (place : Nat) (set : Finset UInt32) : List UInt32 :=
  (order place set).flatMap fun key => List.replicate LookupHitHot.kOpsPerKey key

def lookupHitHot (lookup : Finset UInt32 → UInt32 → Finset UInt32) (sets : List (Finset UInt32))
    (shuffled : List UInt32) (budget : Nat) : Option (List Batch) :=
  runBatches LookupHitHot.kOpsPerKey
    (fun (set, place) =>
      let keys := lookedUp order place set
      some (keys.foldl lookup set, keys))
    budget (replaceSingle sets shuffled)

def IterateHot.kRepetitions : Nat := 64

def IterateHot.kMinTotalKeyCount : Nat := 256 <<< 10

/-- `BM_SWISSMAP_Iterate_Hot`. -/
def iterateHot (sets : List (Finset UInt32)) (budget : Nat) : Option (List Batch) :=
  runBatches IterateHot.kRepetitions
    (fun (set, place) =>
      some (set, (List.replicate IterateHot.kRepetitions (order place set)).flatten))
    budget sets

def InsertManyOrderedHot.kRepetitions : Nat := 64

def InsertManyOrderedHot.kMinTotalKeyCount : Nat := 256 <<< 10

/-- `GetKeys`, the elements of each set. -/
def getKeys (sets : List (Finset UInt32)) : List (List UInt32) :=
  sets.mapIdx fun place set => order place set

/-- A set that is emptied, and into which the keys are inserted then. -/
def rebuilt (keys : List UInt32) (_ : Finset UInt32) : Finset UInt32 :=
  keys.foldl (fun set key => insert key set) ∅

/-- What `BM_SWISSMAP_InsertManyOrdered_Hot` does to a set. -/
def rebuildSet (keys : List (List UInt32)) (entry : Finset UInt32 × Nat) :
    Option (Finset UInt32 × List UInt32) := do
  let row ← keys[entry.2]?
  return (Nat.iterate (rebuilt row) InsertManyOrderedHot.kRepetitions entry.1,
    (List.replicate InsertManyOrderedHot.kRepetitions row).flatten)

/-- `BM_SWISSMAP_InsertManyOrdered_Hot`. -/
def insertManyOrderedHot (cachedSets : List (Finset UInt32)) (budget : Nat) :
    Option (List Batch) :=
  let keys := getKeys order cachedSets
  runBatches InsertManyOrderedHot.kRepetitions (rebuildSet keys) budget cachedSets

end

/-! ### What is reported -/

/-- Every batch executes as many operations as it reports. -/
def Exact (run : Nat → Option (List Batch)) : Prop :=
  ∀ budget, ∃ batches, run budget = some batches ∧
    ∀ batch ∈ batches, batch.executed = batch.argument

structure HotReports (order : Nat → Finset UInt32 → List UInt32) (shuffled : List UInt32)
    (lookupSets sets : List (Finset UInt32)) : Prop where
  lookups : ∀ lookup, lookup = findHit ∨ lookup = insertHit →
    Exact (lookupHitHot order lookup lookupSets shuffled)
  iterate : Exact (iterateHot order sets)
  insertMany : Exact (insertManyOrderedHot order sets)
  replaced : ∀ set, lookupSets = [set] →
    ∀ other ∈ replaceSingle lookupSets shuffled, other ⊆ set

/-- All sets have the size of the first. -/
def SameSize (sets : List (Finset UInt32)) : Prop :=
  ∀ set ∈ sets, set.card = getLargestSetSize sets

/-! ### The operations of a batch -/

/-- Numbers below a bound sum up to as many times the bound as there are numbers only if all of
them are the bound. -/
theorem sum_eq_length_mul_iff {numbers : List Nat} {bound : Nat}
    (below : ∀ number ∈ numbers, number ≤ bound) :
    numbers.sum = numbers.length * bound ↔ ∀ number ∈ numbers, number = bound := by
  have general : numbers.sum ≤ numbers.length * bound ∧
      (numbers.sum = numbers.length * bound ↔ ∀ number ∈ numbers, number = bound) := by
    induction numbers with
    | nil => simp
    | cons number rest inductionHypothesis =>
      obtain ⟨first, others⟩ := List.forall_mem_cons.mp below
      obtain ⟨atMost, equal⟩ := inductionHypothesis others
      rw [List.sum_cons, List.length_cons, Nat.succ_mul, List.forall_mem_cons, ← equal]
      omega
  exact general.2

section

variable {factor : Nat} {operate : Finset UInt32 × Nat → Option (Finset UInt32 × List UInt32)}
  {sets : List (Finset UInt32)} {keys : Finset UInt32 × Nat → List UInt32}

/-- If no set changes, all batches are the same. -/
theorem runBatches_eq {front : Finset UInt32} (isFront : sets.head? = some front)
    (operates : ∀ entry ∈ sets.zipIdx, operate entry = some (entry.1, keys entry))
    (budget : Nat) : runBatches factor operate budget sets =
      some (List.replicate budget
        ⟨toSizeT (sets.length * front.card * factor), sets.zipIdx.map keys⟩) := by
  induction budget with
  | zero => rfl
  | succ budget inductionHypothesis =>
    have outcomes := mapM_eq_some_map operates
    have same : (sets.zipIdx.map fun entry => (entry.1, keys entry)).map Prod.fst = sets := by
      rw [List.map_map]
      exact List.zipIdx_map_fst 0 sets
    rw [runBatches, isFront, Option.bind_eq_bind, Option.bind_some, outcomes, Option.bind_eq_bind,
      Option.bind_some, same, inductionHypothesis, List.map_map]
    rfl

/-- If every element of a set takes `factor` operations, the batches are exact if and only if all
sets have the same size. -/
theorem exact_runBatches_iff (nonempty : sets ≠ []) (positive : 0 < factor)
    (sorted : SortedBySize sets)
    (small : sets.length * getLargestSetSize sets * factor < 2 ^ 64)
    (operates : ∀ entry ∈ sets.zipIdx, operate entry = some (entry.1, keys entry))
    (lengths : ∀ entry ∈ sets.zipIdx, (keys entry).length = entry.1.card * factor) :
    Exact (fun budget => runBatches factor operate budget sets) ↔ SameSize sets := by
  obtain ⟨front, rest, isSets⟩ := List.exists_cons_of_ne_nil nonempty
  have isFront : sets.head? = some front := by rw [isSets, List.head?_cons]
  have largest : getLargestSetSize sets = front.card := by rw [isSets]; rfl
  have run := @runBatches_eq factor operate sets keys front isFront operates
  have executed : Batch.executed
      ⟨toSizeT (sets.length * front.card * factor), sets.zipIdx.map keys⟩ =
        (sets.map Finset.card).sum * factor := by
    have sizes : sets.zipIdx.map (List.length ∘ keys) =
        (sets.zipIdx.map Prod.fst).map fun set => set.card * factor := by
      rw [List.map_map]
      exact List.map_congr_left lengths
    rw [Batch.executed, List.map_map, sizes, List.zipIdx_map_fst]
    exact List.sum_map_mul_right sets Finset.card factor
  have sums : (sets.map Finset.card).sum = sets.length * front.card ↔ SameSize sets := by
    have bounded := sum_eq_length_mul_iff
      (List.forall_mem_map.mpr fun set member => card_le_largest sorted member)
    rw [List.length_map, List.forall_mem_map, largest] at bounded
    rw [bounded, SameSize, largest]
  rw [← sums, ← Nat.mul_left_inj positive.ne', ← executed]
  have argument : toSizeT (sets.length * front.card * factor) =
      sets.length * front.card * factor := Nat.mod_eq_of_lt (largest ▸ small)
  constructor
  · intro exact
    obtain ⟨batches, runs, reported⟩ := exact 1
    cases (run 1).symm.trans runs
    exact (reported _ List.mem_cons_self).trans argument
  · intro equal budget
    refine ⟨_, run budget, fun batch member => ?_⟩
    rw [List.eq_of_mem_replicate member]
    exact equal.trans argument.symm

end

/-! ### The size of the numbers -/

theorem card_le_uint32 (set : Finset UInt32) : set.card ≤ 2 ^ 32 := by
  have injective : Set.InjOn UInt32.toNat (set : Set UInt32) :=
    fun _ _ _ _ same => UInt32.toNat_inj.mp same
  have inRange : ∀ key ∈ set, key.toNat ∈ Finset.range (2 ^ 32) :=
    fun key _ => Finset.mem_range.mpr key.toNat_lt
  exact (Finset.card_le_card_of_injOn UInt32.toNat inRange injective).trans_eq
    (Finset.card_range (2 ^ 32))

theorem largest_le_uint32 (sets : List (Finset UInt32)) : getLargestSetSize sets ≤ 2 ^ 32 := by
  cases sets with
  | nil => exact Nat.zero_le _
  | cons front rest => exact card_le_uint32 front

theorem IsGenerated.nonempty {Key : Type} [DecidableEq Key] {minSize minTotalSize : Nat}
    {sets : List (Finset Key)} (generated : IsGenerated minSize minTotalSize sets)
    (positive : 0 < minTotalSize) : sets ≠ [] := by
  rintro rfl
  exact absurd generated.total (not_le.mpr positive)

/-- No more sets are generated than keys are asked for. -/
theorem IsGenerated.length_le {Key : Type} [DecidableEq Key] {minSize minTotalSize : Nat}
    {sets : List (Finset Key)} (generated : IsGenerated minSize minTotalSize sets) :
    sets.length ≤ minTotalSize := by
  rcases generated.needed with rfl | ⟨last, others, perm, few⟩
  · exact Nat.zero_le _
  · have each : ∀ size ∈ others.map Finset.card, 1 ≤ size :=
      List.forall_mem_map.mpr fun set member =>
        generated.positive.trans_le (generated.sizes set
          (perm.mem_iff.mpr (List.mem_cons_of_mem last member)))
    have atMost := List.length_le_sum_of_one_le _ each
    rw [List.length_map] at atMost
    rw [perm.length_eq, List.length_cons]
    exact Nat.succ_le_of_lt (atMost.trans_lt few)

/-- The product does not wrap around. -/
theorem IsGenerated.small {minSize minTotalSize factor : Nat} {sets : List (Finset UInt32)}
    (generated : IsGenerated minSize minTotalSize sets)
    (few : minTotalSize * 2 ^ 32 * factor < 2 ^ 64) :
    sets.length * getLargestSetSize sets * factor < 2 ^ 64 :=
  (Nat.mul_le_mul_right factor
    (Nat.mul_le_mul generated.length_le (largest_le_uint32 sets))).trans_lt few

/-! ### The three benchmarks -/

section

variable {order : Nat → Finset UInt32 → List UInt32}
  (lists : ∀ place set, IsVectorOf set (order place set)) {minSize : Nat}
  {sets : List (Finset UInt32)}

theorem foldl_lookup {lookup : Finset UInt32 → UInt32 → Finset UInt32}
    (isLookup : lookup = findHit ∨ lookup = insertHit) {set : Finset UInt32}
    {keys : List UInt32} (present : ∀ key ∈ keys, key ∈ set) : keys.foldl lookup set = set := by
  have each : ∀ key ∈ keys, lookup set key = set := by
    intro key member
    rcases isLookup with rfl | rfl
    · rfl
    · exact Finset.insert_eq_of_mem (present key member)
  clear present
  induction keys with
  | nil => rfl
  | cons key keys inductionHypothesis =>
    obtain ⟨first, others⟩ := List.forall_mem_cons.mp each
    rw [List.foldl_cons, first]
    exact inductionHypothesis others

theorem sameSize_singleton (set : Finset UInt32) : SameSize [set] := by
  intro other member
  rw [List.mem_singleton.mp member]
  rfl

theorem rebuilt_eq {row : List UInt32} {set : Finset UInt32} (isVector : IsVectorOf set row)
    (other : Finset UInt32) : rebuilt row other = set := by
  have general (keys : List UInt32) (before : Finset UInt32) :
      keys.foldl (fun set key => insert key set) before = before ∪ keys.toFinset := by
    induction keys generalizing before with
    | nil => exact (Finset.union_empty before).symm
    | cons key keys inductionHypothesis =>
      rw [List.foldl_cons, inductionHypothesis, List.toFinset_cons, Finset.insert_union,
        Finset.union_insert]
  rw [rebuilt, general, Finset.empty_union]
  exact isVector.toFinset

/-- A set that is built from its own elements stays what it is. -/
theorem rebuildSet_eq {keys : List (List UInt32)} {entry : Finset UInt32 × Nat}
    {row : List UInt32} (isVector : IsVectorOf entry.1 row) (found : keys[entry.2]? = some row) :
    rebuildSet keys entry =
      some (entry.1, (List.replicate InsertManyOrderedHot.kRepetitions row).flatten) := by
  rw [rebuildSet, found, Option.bind_eq_bind, Option.bind_some,
    Function.iterate_fixed (rebuilt_eq isVector entry.1)]
  rfl

/-- Several sets are left alone. -/
theorem replaceSingle_cases (sets : List (Finset UInt32)) (shuffled : List UInt32) :
    (∃ set, sets = [set] ∧ replaceSingle sets shuffled =
      [(resize shuffled LookupHitHot.kMinTotalKeyCount).toFinset]) ∨
    ((∀ set, sets ≠ [set]) ∧ replaceSingle sets shuffled = sets) := by
  match sets with
  | [] => exact .inr ⟨fun _ same => (nomatch same), rfl⟩
  | [set] => exact .inl ⟨set, rfl, rfl⟩
  | _ :: _ :: _ => exact .inr ⟨fun _ same => (nomatch same), rfl⟩

/-- A set with enough keys is replaced by a part of it. -/
theorem replaceSingle_subset {set : Finset UInt32} {shuffled : List UInt32}
    (isVector : IsVectorOf set shuffled) (large : LookupHitHot.kMinTotalKeyCount ≤ set.card) :
    ∀ other ∈ replaceSingle [set] shuffled, other ⊆ set := by
  intro other member key inside
  rw [replaceSingle, List.mem_singleton] at member
  rw [member, resize, isVector.length_eq, Nat.sub_eq_zero_of_le large, List.replicate_zero,
    List.append_nil, List.mem_toFinset] at inside
  exact isVector.mem_iff.mp (List.mem_of_mem_take inside)

include lists

theorem length_order (place : Nat) (set : Finset UInt32) :
    (order place set).length = set.card :=
  (lists place set).length_eq

theorem length_lookedUp (place : Nat) (set : Finset UInt32) :
    (lookedUp order place set).length = set.card * LookupHitHot.kOpsPerKey := by
  rw [lookedUp, List.length_flatMap]
  simp only [List.length_replicate, List.map_const', List.sum_replicate_nat, length_order lists]

/-- The lookups leave a set alone. -/
theorem foldl_lookedUp {lookup : Finset UInt32 → UInt32 → Finset UInt32}
    (isLookup : lookup = findHit ∨ lookup = insertHit) (place : Nat) (set : Finset UInt32) :
    (lookedUp order place set).foldl lookup set = set := by
  refine foldl_lookup isLookup fun key member => ?_
  obtain ⟨element, isElement, copy⟩ := List.mem_flatMap.mp member
  rw [List.eq_of_mem_replicate copy]
  exact (lists place set).mem_iff.mp isElement

theorem exact_lookups_iff {lookup : Finset UInt32 → UInt32 → Finset UInt32}
    (isLookup : lookup = findHit ∨ lookup = insertHit) (shuffled : List UInt32)
    (generated : IsGenerated minSize LookupHitHot.kMinTotalKeyCount sets) :
    Exact (lookupHitHot order lookup sets shuffled) ↔ SameSize sets := by
  have positive : 0 < LookupHitHot.kOpsPerKey := by decide
  have operates : ∀ replaced : List (Finset UInt32), ∀ entry ∈ replaced.zipIdx,
      some ((lookedUp order entry.2 entry.1).foldl lookup entry.1,
        lookedUp order entry.2 entry.1) = some (entry.1, lookedUp order entry.2 entry.1) := by
    intro replaced entry _
    rw [foldl_lookedUp lists isLookup]
  have lengths : ∀ replaced : List (Finset UInt32), ∀ entry ∈ replaced.zipIdx,
      (lookedUp order entry.2 entry.1).length = entry.1.card * LookupHitHot.kOpsPerKey :=
    fun _ entry _ => length_lookedUp lists entry.2 entry.1
  obtain ⟨set, rfl, single⟩ | ⟨_, several⟩ := replaceSingle_cases sets shuffled
  · refine iff_of_true ?_ (sameSize_singleton set)
    unfold lookupHitHot
    rw [single]
    refine (exact_runBatches_iff (List.cons_ne_nil _ _) positive (List.pairwise_singleton _ _) ?_
      (operates _) (lengths _)).mpr (sameSize_singleton _)
    have bound := largest_le_uint32
      [(resize shuffled LookupHitHot.kMinTotalKeyCount).toFinset]
    rw [List.length_singleton, Nat.one_mul]
    exact (Nat.mul_le_mul_right _ bound).trans_lt (by decide)
  · unfold lookupHitHot
    rw [several]
    exact exact_runBatches_iff (generated.nonempty (by decide)) positive generated.sorted
      (generated.small (by decide)) (operates sets) (lengths sets)

theorem exact_iterate_iff (generated : IsGenerated minSize IterateHot.kMinTotalKeyCount sets) :
    Exact (iterateHot order sets) ↔ SameSize sets := by
  refine exact_runBatches_iff (generated.nonempty (by decide)) (by decide) generated.sorted
    (generated.small (by decide)) (fun entry _ => rfl) fun entry _ => ?_
  rw [List.length_flatten, List.map_replicate, List.sum_replicate_nat, length_order lists]
  exact Nat.mul_comm _ _

theorem exact_insertMany_iff
    (generated : IsGenerated minSize InsertManyOrderedHot.kMinTotalKeyCount sets) :
    Exact (insertManyOrderedHot order sets) ↔ SameSize sets := by
  have operates : ∀ entry ∈ sets.zipIdx, rebuildSet (getKeys order sets) entry =
      some (entry.1, (List.replicate InsertManyOrderedHot.kRepetitions
        (order entry.2 entry.1)).flatten) := by
    intro entry member
    have found := List.mem_zipIdx_iff_getElem?.mp member
    refine rebuildSet_eq (lists entry.2 entry.1) ?_
    rw [getKeys, List.getElem?_mapIdx, found, Option.map_some]
  refine exact_runBatches_iff (generated.nonempty (by decide)) (by decide) generated.sorted
    (generated.small (by decide)) operates fun entry _ => ?_
  rw [List.length_flatten, List.map_replicate, List.sum_replicate_nat, length_order lists]
  exact Nat.mul_comm _ _

end

/-- The three benchmarks report the work they do if and only if the sets have the same size. -/
theorem hotReports_iff (order : Nat → Finset UInt32 → List UInt32)
    (lists : ∀ place set, IsVectorOf set (order place set)) (minSize : Nat)
    (lookupSets sets : List (Finset UInt32)) (shuffled : List UInt32)
    (lookupGenerated : IsGenerated minSize LookupHitHot.kMinTotalKeyCount lookupSets)
    (generated : IsGenerated minSize IterateHot.kMinTotalKeyCount sets)
    (isShuffled : ∀ set, lookupSets = [set] → IsVectorOf set shuffled) :
    HotReports order shuffled lookupSets sets ↔ SameSize lookupSets ∧ SameSize sets := by
  constructor
  · intro reports
    exact ⟨(exact_lookups_iff lists (.inl rfl) shuffled lookupGenerated).mp
      (reports.lookups findHit (.inl rfl)), (exact_iterate_iff lists generated).mp reports.iterate⟩
  · rintro ⟨sameLookup, same⟩
    refine ⟨fun lookup isLookup => ?_, (exact_iterate_iff lists generated).mpr same,
      (exact_insertMany_iff lists generated).mpr same, fun set single => ?_⟩
    · exact (exact_lookups_iff lists isLookup shuffled lookupGenerated).mpr sameLookup
    · have large := lookupGenerated.total
      rw [single, List.map_singleton, List.sum_singleton] at large
      rw [single]
      exact replaceSingle_subset (isShuffled set single) large

/-! ### The keys of a batch -/

/-- Each batch operates on every element of every set so many times, and on no other key. -/
def Repeats (times : Nat) (sets : List (Finset UInt32)) (batches : List Batch) : Prop :=
  ∀ batch ∈ batches, List.Forall₂
    (fun set keys => ∀ key, keys.count key = if key ∈ set then times else 0) sets batch.operations

theorem count_flatMap_replicate {set : Finset UInt32} {row : List UInt32}
    (isVector : IsVectorOf set row) (times : Nat) (key : UInt32) :
    (row.flatMap fun key => List.replicate times key).count key =
      if key ∈ set then times else 0 := by
  have once := @List.Nodup.count _ _ _ key _ isVector.distinct
  have general (row : List UInt32) :
      (row.flatMap fun key => List.replicate times key).count key = row.count key * times := by
    induction row with
    | nil => exact (Nat.zero_mul times).symm
    | cons first rest inductionHypothesis =>
      rw [List.flatMap_cons, List.count_append, inductionHypothesis, List.count_cons,
        List.count_replicate, Nat.add_mul, Nat.add_comm]
      split <;> simp
  rw [general, once]
  simp only [isVector.mem_iff, ite_mul, Nat.one_mul, Nat.zero_mul]

theorem count_flatten_replicate {set : Finset UInt32} {row : List UInt32}
    (isVector : IsVectorOf set row) (times : Nat) (key : UInt32) :
    (List.replicate times row).flatten.count key = if key ∈ set then times else 0 := by
  have once := @List.Nodup.count _ _ _ key _ isVector.distinct
  rw [List.count_flatten, List.map_replicate, List.sum_replicate_nat, once]
  simp only [isVector.mem_iff, mul_ite, Nat.mul_one, Nat.mul_zero]

theorem runBatches_repeats {factor times : Nat}
    {operate : Finset UInt32 × Nat → Option (Finset UInt32 × List UInt32)}
    {sets : List (Finset UInt32)} {keys : Finset UInt32 × Nat → List UInt32}
    (nonempty : sets ≠ [])
    (operates : ∀ entry ∈ sets.zipIdx, operate entry = some (entry.1, keys entry))
    (counts : ∀ entry ∈ sets.zipIdx, ∀ key,
      (keys entry).count key = if key ∈ entry.1 then times else 0) (budget : Nat) :
    ∃ batches, runBatches factor operate budget sets = some batches ∧ batches.length = budget ∧
      Repeats times sets batches := by
  obtain ⟨front, rest, isSets⟩ := List.exists_cons_of_ne_nil nonempty
  have isFront : sets.head? = some front := by rw [isSets, List.head?_cons]
  refine ⟨_, runBatches_eq isFront operates budget, List.length_replicate, ?_⟩
  intro batch member
  rw [List.eq_of_mem_replicate member]
  have each : List.Forall₂ (fun set keys => ∀ key, keys.count key = if key ∈ set then times else 0)
      (sets.zipIdx.map Prod.fst) (sets.zipIdx.map keys) := by
    rw [List.forall₂_map_left_iff, List.forall₂_map_right_iff, List.forall₂_same]
    exact counts
  rwa [List.zipIdx_map_fst] at each

section

variable {order : Nat → Finset UInt32 → List UInt32}
  (lists : ∀ place set, IsVectorOf set (order place set)) {sets : List (Finset UInt32)}

include lists

/-- What is looked up are the elements of the sets, or of a part of a single set. -/
theorem lookupHitHot_repeats {lookup : Finset UInt32 → UInt32 → Finset UInt32}
    (isLookup : lookup = findHit ∨ lookup = insertHit) (nonempty : sets ≠ [])
    (shuffled : List UInt32) (budget : Nat) :
    ∃ batches, lookupHitHot order lookup sets shuffled budget = some batches ∧
      batches.length = budget ∧
      Repeats LookupHitHot.kOpsPerKey (replaceSingle sets shuffled) batches := by
  have nonempty' : replaceSingle sets shuffled ≠ [] := by
    obtain ⟨set, -, single⟩ | ⟨-, several⟩ := replaceSingle_cases sets shuffled
    · rw [single]
      exact List.cons_ne_nil _ _
    · rwa [several]
  refine @runBatches_repeats _ _ _ _ (fun entry => lookedUp order entry.2 entry.1) nonempty'
    (fun entry _ => ?_) (fun entry _ key => ?_) budget
  · dsimp only
    rw [foldl_lookedUp lists isLookup]
  · exact count_flatMap_replicate (lists entry.2 entry.1) _ key

theorem iterateHot_repeats (nonempty : sets ≠ []) (budget : Nat) :
    ∃ batches, iterateHot order sets budget = some batches ∧ batches.length = budget ∧
      Repeats IterateHot.kRepetitions sets batches :=
  runBatches_repeats nonempty (fun _ _ => rfl)
    (fun entry _ key => count_flatten_replicate (lists entry.2 entry.1) _ key) budget

end

/-- The sets are rebuilt from the rows of their elements. -/
theorem rebuildSets_repeats {sets : List (Finset UInt32)} {keys : List (List UInt32)}
    (vectors : List.Forall₂ IsVectorOf sets keys) (nonempty : sets ≠ []) (budget : Nat) :
    ∃ batches, runBatches InsertManyOrderedHot.kRepetitions (rebuildSet keys) budget sets =
        some batches ∧ batches.length = budget ∧
      Repeats InsertManyOrderedHot.kRepetitions sets batches := by
  have rows : ∀ entry ∈ sets.zipIdx, ∃ row, keys[entry.2]? = some row ∧
      IsVectorOf entry.1 row := by
    intro entry member
    obtain ⟨bound, isSet⟩ := List.getElem?_eq_some_iff.mp (List.mem_zipIdx_iff_getElem?.mp member)
    have bound' := bound.trans_eq vectors.length_eq
    exact ⟨_, List.getElem?_eq_getElem bound', isSet ▸ vectors.get bound bound'⟩
  refine @runBatches_repeats _ _ _ _ (fun entry => (List.replicate
    InsertManyOrderedHot.kRepetitions (keys[entry.2]?.getD [])).flatten) nonempty
    (fun entry member => ?_) (fun entry member key => ?_) budget
  · obtain ⟨row, found, isVector⟩ := rows entry member
    rw [rebuildSet_eq isVector found, found, Option.getD_some]
  · obtain ⟨row, found, isVector⟩ := rows entry member
    rw [found, Option.getD_some]
    exact count_flatten_replicate isVector _ key

/-! ### Two sets -/

/-- The first keys that `RandomExistent` can return. -/
def existentKeys (count : Nat) : List UInt32 :=
  (List.range count).map fun index => UInt32.ofNat (2 ^ 30 + index)

theorem nodup_existentKeys {count : Nat} (bound : count ≤ 2 ^ 30) : (existentKeys count).Nodup := by
  refine List.Nodup.map_on (fun first isFirst second isSecond same => ?_) List.nodup_range
  have below := List.mem_range.mp isFirst
  have below' := List.mem_range.mp isSecond
  have values := congrArg UInt32.toNat same
  rw [UInt32.toNat_ofNat', UInt32.toNat_ofNat', Nat.mod_eq_of_lt (by omega),
    Nat.mod_eq_of_lt (by omega)] at values
  omega

theorem card_existentKeys {count : Nat} (bound : count ≤ 2 ^ 30) :
    (existentKeys count).toFinset.card = count := by
  rw [List.toFinset_card_of_nodup (nodup_existentKeys bound), existentKeys, List.length_map,
    List.length_range]

theorem isGenerated_pair {minSize minTotalSize first second : Nat} (positive : 0 < minSize)
    (bound : first ≤ 2 ^ 30) (large : minSize ≤ second) (descending : second ≤ first)
    (few : first < minTotalSize) (enough : minTotalSize ≤ first + second) :
    IsGenerated minSize minTotalSize
      [(existentKeys first).toFinset, (existentKeys second).toFinset] := by
  have cardFirst := card_existentKeys bound
  have cardSecond := card_existentKeys (descending.trans bound)
  refine ⟨positive, ?_, ?_, .inr ⟨_, _, List.Perm.swap _ _ _, ?_⟩, ?_⟩
  · refine List.forall_mem_cons.mpr ⟨?_, List.forall_mem_singleton.mpr ?_⟩
    · rw [cardFirst]
      exact large.trans descending
    · rw [cardSecond]
      exact large
  · simpa [cardFirst, cardSecond] using enough
  · simpa [cardFirst] using few
  · simpa [SortedBySize, cardFirst, cardSecond] using descending

theorem sameSize_pair (set : Finset UInt32) : SameSize [set, set] := by
  simp [SameSize, getLargestSetSize]

theorem hotReports_equalSets :
    HotReports (fun _ set => set.toList) []
      [(existentKeys 40000).toFinset, (existentKeys 40000).toFinset]
      [(existentKeys 150000).toFinset, (existentKeys 150000).toFinset] :=
  (hotReports_iff (fun _ set => set.toList)
    (fun _ set => ⟨set.nodup_toList, set.toList_toFinset⟩) 64 _ _ []
    (isGenerated_pair (by decide) (by decide) (by decide) (by decide) (by decide) (by decide))
    (isGenerated_pair (by decide) (by decide) (by decide) (by decide) (by decide) (by decide))
    (fun _ same => nomatch same)).mpr
    ⟨sameSize_pair _, sameSize_pair _⟩

theorem generateSets_pair {minSize minTotalSize first second : Nat} (positive : minSize ≠ 0)
    (bound : first ≤ 2 ^ 30) (large : minSize < second) (descending : second ≤ first)
    (few : first < minTotalSize) (enough : minTotalSize ≤ first + second) :
    generateSets minSize minTotalSize .kMin
      [resizedAtLast (existentKeys first), resizedAtLast (existentKeys second)] =
        some [(existentKeys first).toFinset, (existentKeys second).toFinset] := by
  have length (count : Nat) : (existentKeys count).length = count := by
    rw [existentKeys, List.length_map, List.length_range]
  have cardFirst := card_existentKeys bound
  have cardSecond := card_existentKeys (descending.trans bound)
  have firstSet := generateSet_of_nodup (nodup_existentKeys bound)
    (by rw [length]; exact large.trans_le descending)
  have secondSet := generateSet_of_nodup (nodup_existentKeys (descending.trans bound))
    (by rw [length]; exact large)
  rw [generateSets, if_neg positive, generateFrom, if_pos (by omega), firstSet,
    Option.bind_eq_bind, Option.bind_some, generateFrom, cardFirst, Nat.zero_add, if_pos few,
    secondSet, Option.bind_eq_bind, Option.bind_some, generateFrom, cardSecond,
    if_neg (not_lt.mpr enough), Option.map_some]
  refine congrArg some (List.mergeSort_of_pairwise (List.pairwise_pair.mpr (decide_eq_true ?_)))
  rwa [cardFirst, cardSecond]

/-- The second set has fewer keys than the first, so a batch executes fewer lookups than it
reports. -/
theorem not_hotReports_twoSets :
    generateSets 32768 LookupHitHot.kMinTotalKeyCount .kMin
        [resizedAtLast (existentKeys 40000), resizedAtLast (existentKeys 32769)] =
      some [(existentKeys 40000).toFinset, (existentKeys 32769).toFinset] ∧
    ∀ (order : Nat → Finset UInt32 → List UInt32) (shuffled : List UInt32)
      (sets : List (Finset UInt32)), (∀ place set, IsVectorOf set (order place set)) →
      ¬ HotReports order shuffled
        [(existentKeys 40000).toFinset, (existentKeys 32769).toFinset] sets := by
  have generates := @generateSets_pair 32768 LookupHitHot.kMinTotalKeyCount 40000 32769
    (by decide) (by decide) (by decide) (by decide) (by decide) (by decide)
  refine ⟨generates, fun order shuffled sets lists reports => ?_⟩
  have sameSize := (exact_lookups_iff lists (.inl rfl) shuffled
    (isGenerated_generateSets generates)).mp (reports.lookups findHit (.inl rfl))
  have cardFirst := @card_existentKeys 40000 (by decide)
  have cardSecond := @card_existentKeys 32769 (by decide)
  have same := sameSize (existentKeys 32769).toFinset (List.mem_cons_of_mem _ List.mem_cons_self)
  have largest : getLargestSetSize
      [(existentKeys 40000).toFinset, (existentKeys 32769).toFinset] = 40000 := by
    rw [getLargestSetSize, List.head?_cons, Option.map_some, cardFirst, Option.getD_some]
  rw [cardSecond, largest] at same
  exact absurd same (by decide)

end Fleetbench.Swissmap
