/-
This file models the cache that the benchmarks of a container share: the sets
that were generated, and tables of keys that were computed from the sets as they
were. What a table holds for some sets fits them.
-/

import Fleetbench.Library.Memo
import Fleetbench.Swissmap.Misses

namespace Fleetbench.Swissmap

open Library

/-! ### The cache -/

/-- The arguments of `GetGeneratedSets`. They stand for the address of the sets, too. -/
structure CacheKey where
  minSize : Nat
  minTotalSize : Nat
  density : Density
  positive : 0 < minTotalSize
  deriving DecidableEq

/-- In which order the sets that are cached under a key are iterated over. -/
structure Layout where
  order : CacheKey → Nat → Finset UInt32 → List UInt32
  isVector : ∀ key place set, IsVectorOf set (order key place set)

/-- What a run of a benchmark draws, how it shuffles, in which order its copies of the sets are
iterated over, and how many rounds are admitted. -/
structure Choices where
  chances : List (Chance UInt32)
  draws : Nat → UInt32
  shuffle : Nat → Finset UInt32 → List UInt32
  isVector : ∀ place set, IsVectorOf set (shuffle place set)
  copyOrder : Nat → Finset UInt32 → List UInt32
  isCopy : ∀ place set, IsVectorOf set (copyOrder place set)
  extraDraws : Nat → List UInt32
  budget : Nat

structure SetsCache where
  generatedSets : CacheKey → Option (List (Finset UInt32)) := fun _ => none
  keys : CacheKey → List (List UInt32) := fun _ => []
  nonExKeys : CacheKey → List UInt32 := fun _ => []
  transpKeys : CacheKey → List UInt32 := fun _ => []
  transpRKeys : CacheKey → List UInt32 := fun _ => []
  extKeys : CacheKey → List (List UInt32) := fun _ => []
  nSetsOfSize : CacheKey → List Nat := fun _ => []

namespace SetsCache

variable (layout : Layout) (choices : Choices) (key : CacheKey) (sets : List (Finset UInt32))
  (cache : SetsCache)

def getGeneratedSets : Option (List (Finset UInt32) × SetsCache) := do
  let generate := generateSets key.minSize key.minTotalSize key.density
    (choices.chances.map Chance.existent)
  let (sets, generatedSets) ← fetch (· = none) cache.generatedSets key (generate.map some)
  return (← sets, { cache with generatedSets })

def getKeys : Option (List (List UInt32) × SetsCache) := do
  let (rows, keys) ← fetch (· = []) cache.keys key (some (Swissmap.getKeys (layout.order key) sets))
  return (rows, { cache with keys })

def getNonExistingKeys : Option (List UInt32 × SetsCache) := do
  let draws := (List.range (getLargestSetSize sets)).map choices.draws
  let (keys, nonExKeys) ← fetch (· = []) cache.nonExKeys key
    (Swissmap.getNonExistingKeys sets draws)
  return (keys, { cache with nonExKeys })

/-- The filler is a value-initialised key. -/
def getTransposedRandomizedKeys : Option (List UInt32 × SetsCache) := do
  let (keys, transpRKeys) ← fetch (· = []) cache.transpRKeys key
    (transpose 0 (Swissmap.getKeys choices.shuffle sets))
  return (keys, { cache with transpRKeys })

def getTransposedKeys : Option (List UInt32 × SetsCache) := do
  let (keys, transpKeys) ← fetch (· = []) cache.transpKeys key
    (transpose 0 (Swissmap.getKeys (layout.order key) sets))
  return (keys, { cache with transpKeys })

/-- The loop of `GetExtendedKeys`. -/
def extendSets : Option (List (List UInt32)) :=
  let numKeys := 3 * getLargestSetSize sets
  sets.zipIdx.mapM fun (set, place) =>
    extendedKeys set numKeys (choices.shuffle place set)
      ((choices.extraDraws place).map randomExistent)

def getExtendedKeys : Option (List (List UInt32) × SetsCache) := do
  let (keys, extKeys) ← fetch (· = []) cache.extKeys key (extendSets choices sets)
  return (keys, { cache with extKeys })

def getNumSetsOfSize : Option (List Nat × SetsCache) := do
  let (sizes, nSetsOfSize) ← fetch (· = []) cache.nSetsOfSize key
    (some (Swissmap.getNumSetsOfSize sets))
  return (sizes, { cache with nSetsOfSize })

/-- The sets are worked on in place. -/
def setSets : SetsCache :=
  { cache with generatedSets := Function.update cache.generatedSets key (some sets) }

end SetsCache

/-! ### What the cache holds -/

/-- The sets were generated for this key, by `RandomExistent`. -/
structure Generated (key : CacheKey) (sets : List (Finset UInt32)) : Prop where
  isGenerated : IsGenerated key.minSize key.minTotalSize sets
  existent : ∀ set ∈ sets, ∀ element ∈ set, Existent element

/-- The keys are the transposed elements of the sets, in some order. -/
def Transposed (sets : List (Finset UInt32)) (keys : List UInt32) : Prop :=
  ∃ elements, List.Forall₂ IsVectorOf sets elements ∧ transpose 0 elements = some keys

/-- The row of each set has its elements first, and then other keys. -/
def Extended (sets : List (Finset UInt32)) (rows : List (List UInt32)) : Prop :=
  List.Forall₂ (fun set row => IsExtended set (3 * getLargestSetSize sets) row) sets rows

section

variable {key : CacheKey} {sets : List (Finset UInt32)}

theorem Generated.nonempty (generated : Generated key sets) : sets ≠ [] :=
  generated.isGenerated.nonempty key.positive

theorem Generated.largest_ne_zero (generated : Generated key sets) :
    getLargestSetSize sets ≠ 0 := by
  obtain ⟨front, rest, rfl⟩ := List.exists_cons_of_ne_nil generated.nonempty
  exact (generated.isGenerated.positive.trans_le
    (generated.isGenerated.sizes front List.mem_cons_self)).ne'

end

namespace SetsCache

/-- What is cached fits the sets that are cached under the same key. -/
def Fits {Value : Type} (cache : SetsCache) (good : List (Finset UInt32) → Value → Prop)
    (key : CacheKey) (value : Value) : Prop :=
  ∃ sets, cache.generatedSets key = some sets ∧ good sets value

/-- Sets are cached as they were generated, and every table fits the sets that it was computed
from. -/
structure Coherent (cache : SetsCache) : Prop where
  generated : Stores (· = none) (fun key found => ∃ sets, found = some sets ∧ Generated key sets)
    cache.generatedSets
  keys : Stores (· = []) (cache.Fits (List.Forall₂ IsVectorOf)) cache.keys
  nonExKeys : Stores (· = [])
    (cache.Fits fun sets keys => keys ≠ [] ∧ ∀ key ∈ keys, Absent sets key) cache.nonExKeys
  transpKeys : Stores (· = []) (cache.Fits Transposed) cache.transpKeys
  transpRKeys : Stores (· = []) (cache.Fits Transposed) cache.transpRKeys
  extKeys : Stores (· = []) (cache.Fits Extended) cache.extKeys
  nSetsOfSize : Stores (· = [])
    (cache.Fits fun sets sizes => sizes = Swissmap.getNumSetsOfSize sets) cache.nSetsOfSize

theorem coherent_empty : Coherent {} where
  generated := stores_of_absent fun _ => rfl
  keys := stores_of_absent fun _ => rfl
  nonExKeys := stores_of_absent fun _ => rfl
  transpKeys := stores_of_absent fun _ => rfl
  transpRKeys := stores_of_absent fun _ => rfl
  extKeys := stores_of_absent fun _ => rfl
  nSetsOfSize := stores_of_absent fun _ => rfl

variable {cache next : SetsCache} {layout : Layout} {choices : Choices} {key : CacheKey}
  {sets : List (Finset UInt32)}

/-- Sets that are cached stay cached. -/
def Grows (cache next : SetsCache) : Prop :=
  ∀ key sets, cache.generatedSets key = some sets → next.generatedSets key = some sets

theorem Grows.stores {Value : Type} {absent : Value → Prop}
    {good : List (Finset UInt32) → Value → Prop} {table : CacheKey → Value}
    (grows : cache.Grows next) (stores : Stores absent (cache.Fits good) table) :
    Stores absent (next.Fits good) table := by
  intro key present
  obtain ⟨sets, isCached, fits⟩ := stores key present
  exact ⟨sets, grows key sets isCached, fits⟩

/-! ### The functions of the cache -/

theorem getGeneratedSets_spec (coherent : cache.Coherent)
    (gets : cache.getGeneratedSets choices key = some (sets, next)) :
    Generated key sets ∧ next.Coherent ∧ next.generatedSets key = some sets ∧ cache.Grows next ∧
      next.extKeys = cache.extKeys := by
  obtain ⟨⟨found, generatedSets⟩, fetches, gets⟩ := Option.bind_eq_some_iff.mp gets
  obtain ⟨_, isFound, gets⟩ := Option.bind_eq_some_iff.mp gets
  cases gets
  obtain rfl : found = some sets := isFound
  obtain ⟨⟨_, same, good⟩, stores, isCached, others, kept⟩ :=
    fetch_spec coherent.generated (fun value computes => by
      obtain ⟨sets, generates, rfl⟩ := Option.map_eq_some_iff.mp computes
      exact ⟨sets, rfl, isGenerated_generateSets generates,
        existent_generateSets generates⟩) fetches
  cases same
  have grows : cache.Grows { cache with generatedSets } := by
    intro other cached isOther
    by_cases same : other = key
    · subst same
      have present : ¬ cache.generatedSets other = none := by
        rw [isOther]
        exact Option.some_ne_none _
      obtain ⟨unchanged, -⟩ := kept present
      show generatedSets other = some cached
      rw [unchanged, isOther]
    · exact (others other same).trans isOther
  exact ⟨good, ⟨stores, grows.stores coherent.keys, grows.stores coherent.nonExKeys,
    grows.stores coherent.transpKeys, grows.stores coherent.transpRKeys,
    grows.stores coherent.extKeys, grows.stores coherent.nSetsOfSize⟩, isCached, grows, rfl⟩

theorem forall₂_getKeys {order : Nat → Finset UInt32 → List UInt32}
    (isVector : ∀ place set, IsVectorOf set (order place set)) (sets : List (Finset UInt32)) :
    List.Forall₂ IsVectorOf sets (Swissmap.getKeys order sets) := by
  unfold Swissmap.getKeys
  induction sets generalizing order with
  | nil => exact .nil
  | cons set sets inductionHypothesis =>
    rw [List.mapIdx_cons]
    exact .cons (isVector 0 set) (inductionHypothesis fun place set => isVector (place + 1) set)

theorem extended_extendSets (sorted : SortedBySize sets) {rows : List (List UInt32)}
    (built : extendSets choices sets = some rows) : Extended sets rows := by
  have each : List.Forall₂
      (fun set row => set ∈ sets → IsExtended set (3 * getLargestSetSize sets) row)
      (sets.zipIdx.map Prod.fst) rows :=
    List.forall₂_map_left_iff.mpr ((mapM_eq_some_iff.mp built).imp fun entry row isRow member =>
      isExtended_extendedKeys (choices.isVector entry.2 entry.1)
        ((card_le_largest sorted member).trans (Nat.le_mul_of_pos_left _ (by decide))) isRow)
  rw [List.zipIdx_map_fst] at each
  obtain ⟨length, each⟩ := List.forall₂_iff_zip.mp each
  exact List.forall₂_iff_zip.mpr ⟨length, fun member => each member (List.of_mem_zip member).1⟩

/-- What is fetched for cached sets fits them. -/
theorem fetch_fits {Value : Type} {absent : Value → Prop} [DecidablePred absent]
    {good : List (Finset UInt32) → Value → Prop} {table after : CacheKey → Value} {value : Value}
    {compute : Option Value} (stores : Stores absent (cache.Fits good) table)
    (isCached : cache.generatedSets key = some sets)
    (computes : ∀ value, compute = some value → good sets value)
    (fetches : fetch absent table key compute = some (value, after)) :
    good sets value ∧ Stores absent (cache.Fits good) after := by
  obtain ⟨⟨_, isCached', fits⟩, stores', -⟩ :=
    fetch_spec stores (fun value found => ⟨sets, isCached, computes value found⟩) fetches
  cases isCached.symm.trans isCached'
  exact ⟨fits, stores'⟩

section

variable (coherent : cache.Coherent) (generated : Generated key sets)
  (isCached : cache.generatedSets key = some sets)

include coherent isCached

include generated in
theorem getNonExistingKeys_spec {keys : List UInt32}
    (gets : cache.getNonExistingKeys choices key sets = some (keys, next)) :
    (keys ≠ [] ∧ ∀ key ∈ keys, Absent sets key) ∧ next.Coherent ∧
      next.generatedSets = cache.generatedSets := by
  obtain ⟨⟨_, nonExKeys⟩, fetches, gets⟩ := Option.bind_eq_some_iff.mp gets
  cases gets
  obtain ⟨fits, stores⟩ := fetch_fits coherent.nonExKeys isCached (fun value isKeys =>
    ⟨nonempty_getNonExistingKeys generated.isGenerated key.positive isKeys,
      absent_getNonExistingKeys generated.existent isKeys⟩) fetches
  exact ⟨fits, { coherent with nonExKeys := stores }, rfl⟩

theorem getTransposedRandomizedKeys_spec {keys : List UInt32}
    (gets : cache.getTransposedRandomizedKeys choices key sets = some (keys, next)) :
    Transposed sets keys ∧ next.Coherent ∧ next.generatedSets = cache.generatedSets := by
  obtain ⟨⟨_, transpRKeys⟩, fetches, gets⟩ := Option.bind_eq_some_iff.mp gets
  cases gets
  obtain ⟨fits, stores⟩ := fetch_fits coherent.transpRKeys isCached (fun value isKeys =>
    ⟨_, forall₂_getKeys choices.isVector sets, isKeys⟩) fetches
  exact ⟨fits, { coherent with transpRKeys := stores }, rfl⟩

theorem getTransposedKeys_spec {keys : List UInt32}
    (gets : cache.getTransposedKeys layout key sets = some (keys, next)) :
    Transposed sets keys ∧ next.Coherent ∧ next.generatedSets = cache.generatedSets := by
  obtain ⟨⟨_, transpKeys⟩, fetches, gets⟩ := Option.bind_eq_some_iff.mp gets
  cases gets
  obtain ⟨fits, stores⟩ := fetch_fits coherent.transpKeys isCached (fun value isKeys =>
    ⟨_, forall₂_getKeys (layout.isVector key) sets, isKeys⟩) fetches
  exact ⟨fits, { coherent with transpKeys := stores }, rfl⟩

theorem getKeys_spec {rows : List (List UInt32)}
    (gets : cache.getKeys layout key sets = some (rows, next)) :
    List.Forall₂ IsVectorOf sets rows ∧ next.Coherent ∧
      next.generatedSets = cache.generatedSets := by
  obtain ⟨⟨_, keys⟩, fetches, gets⟩ := Option.bind_eq_some_iff.mp gets
  cases gets
  obtain ⟨fits, stores⟩ := fetch_fits coherent.keys isCached (fun value isRows =>
    Option.some.inj isRows ▸ forall₂_getKeys (layout.isVector key) sets) fetches
  exact ⟨fits, { coherent with keys := stores }, rfl⟩

include generated in
theorem getExtendedKeys_spec {rows : List (List UInt32)}
    (gets : cache.getExtendedKeys choices key sets = some (rows, next)) :
    Extended sets rows ∧ next.Coherent ∧ next.generatedSets = cache.generatedSets := by
  obtain ⟨⟨_, extKeys⟩, fetches, gets⟩ := Option.bind_eq_some_iff.mp gets
  cases gets
  obtain ⟨fits, stores⟩ := fetch_fits coherent.extKeys isCached (fun value built =>
    extended_extendSets generated.isGenerated.sorted built) fetches
  exact ⟨fits, { coherent with extKeys := stores }, rfl⟩

theorem getNumSetsOfSize_spec {sizes : List Nat}
    (gets : cache.getNumSetsOfSize key sets = some (sizes, next)) :
    sizes = Swissmap.getNumSetsOfSize sets ∧ next.Coherent ∧
      next.generatedSets = cache.generatedSets := by
  obtain ⟨⟨_, nSetsOfSize⟩, fetches, gets⟩ := Option.bind_eq_some_iff.mp gets
  cases gets
  obtain ⟨fits, stores⟩ := fetch_fits coherent.nSetsOfSize isCached (fun value isSizes =>
    (Option.some.inj isSizes).symm) fetches
  exact ⟨fits, { coherent with nSetsOfSize := stores }, rfl⟩

omit coherent in
/-- Sets that are written back as they were change nothing. -/
theorem setSets_self : cache.setSets key sets = cache := by
  rw [setSets, ← isCached, Function.update_eq_self]

end

/-! ### Functions that return -/

/-- The sets are cached, or the draws are enough to generate them. -/
def Supplied (choices : Choices) (key : CacheKey) (cache : SetsCache) : Prop :=
  cache.generatedSets key = none → ∃ sets, generateSets key.minSize key.minTotalSize key.density
    (choices.chances.map Chance.existent) = some sets

theorem exists_getGeneratedSets (supplied : Supplied choices key cache) :
    ∃ sets next, cache.getGeneratedSets choices key = some (sets, next) := by
  obtain ⟨⟨found, table⟩, fetches⟩ := exists_fetch (· = none) cache.generatedSets key fun absent =>
    let ⟨sets, generates⟩ := supplied absent
    ⟨some sets, congrArg (Option.map some) generates⟩
  have stores : Stores (· = none) (fun _ found => ∃ sets, found = some sets)
      cache.generatedSets := fun _ present => Option.ne_none_iff_exists'.mp present
  obtain ⟨⟨sets, rfl⟩, -⟩ := fetch_spec stores (fun value computes => by
    obtain ⟨sets, -, rfl⟩ := Option.map_eq_some_iff.mp computes
    exact ⟨sets, rfl⟩) fetches
  exact ⟨sets, _, Option.bind_eq_some_iff.mpr ⟨_, fetches, rfl⟩⟩

theorem exists_getNonExistingKeys (choices : Choices) (key : CacheKey)
    (sets : List (Finset UInt32)) (cache : SetsCache) :
    ∃ keys next, cache.getNonExistingKeys choices key sets = some (keys, next) := by
  have enough : ∃ keys, Swissmap.getNonExistingKeys sets
      ((List.range (getLargestSetSize sets)).map choices.draws) = some keys := by
    refine mapM_isSome_iff.mpr fun i member => ⟨randomNonexistent (choices.draws i), ?_⟩
    rw [List.getElem?_map, List.getElem?_range (List.mem_range.mp member)]
    rfl
  obtain ⟨⟨keys, table⟩, fetches⟩ := exists_fetch (· = []) cache.nonExKeys key fun _ => enough
  exact ⟨keys, _, Option.bind_eq_some_iff.mpr ⟨_, fetches, rfl⟩⟩

section

variable {sets : List (Finset UInt32)} (generated : Generated key sets)

include generated

theorem exists_transpose {elements : List (List UInt32)}
    (vectors : List.Forall₂ IsVectorOf sets elements) :
    ∃ keys, transpose 0 elements = some keys := by
  obtain ⟨keys, transposed, -⟩ :=
    exists_scheduled vectors generated.isGenerated.sorted generated.nonempty 0
  exact ⟨keys, transposed⟩

theorem exists_getTransposedRandomizedKeys (choices : Choices) (cache : SetsCache) :
    ∃ keys next, cache.getTransposedRandomizedKeys choices key sets = some (keys, next) := by
  obtain ⟨⟨keys, table⟩, fetches⟩ := exists_fetch (· = []) cache.transpRKeys key fun _ =>
    exists_transpose generated (forall₂_getKeys choices.isVector sets)
  exact ⟨keys, _, Option.bind_eq_some_iff.mpr ⟨_, fetches, rfl⟩⟩

theorem exists_getTransposedKeys (layout : Layout) (cache : SetsCache) :
    ∃ keys next, cache.getTransposedKeys layout key sets = some (keys, next) := by
  obtain ⟨⟨keys, table⟩, fetches⟩ := exists_fetch (· = []) cache.transpKeys key fun _ =>
    exists_transpose generated (forall₂_getKeys (layout.isVector key) sets)
  exact ⟨keys, _, Option.bind_eq_some_iff.mpr ⟨_, fetches, rfl⟩⟩

omit generated in
theorem exists_getNumSetsOfSize (key : CacheKey) (sets : List (Finset UInt32))
    (cache : SetsCache) : ∃ sizes next, cache.getNumSetsOfSize key sets = some (sizes, next) := by
  obtain ⟨⟨sizes, table⟩, fetches⟩ := exists_fetch (· = []) cache.nSetsOfSize key fun _ =>
    ⟨Swissmap.getNumSetsOfSize sets, rfl⟩
  exact ⟨sizes, _, Option.bind_eq_some_iff.mpr ⟨_, fetches, rfl⟩⟩

omit generated in
theorem exists_getKeys (layout : Layout) (key : CacheKey) (sets : List (Finset UInt32))
    (cache : SetsCache) : ∃ rows next, cache.getKeys layout key sets = some (rows, next) := by
  obtain ⟨⟨rows, table⟩, fetches⟩ := exists_fetch (· = []) cache.keys key fun _ =>
    ⟨Swissmap.getKeys (layout.order key) sets, rfl⟩
  exact ⟨rows, _, Option.bind_eq_some_iff.mpr ⟨_, fetches, rfl⟩⟩

omit generated in
theorem exists_getExtendedKeys
    (extensible : cache.extKeys key = [] → ∃ rows, extendSets choices sets = some rows) :
    ∃ rows next, cache.getExtendedKeys choices key sets = some (rows, next) := by
  obtain ⟨⟨rows, table⟩, fetches⟩ := exists_fetch (· = []) cache.extKeys key extensible
  exact ⟨rows, _, Option.bind_eq_some_iff.mpr ⟨_, fetches, rfl⟩⟩

end

end SetsCache

end Fleetbench.Swissmap
