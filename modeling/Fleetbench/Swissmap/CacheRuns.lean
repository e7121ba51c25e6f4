/-
This file models the benchmarks that share the cache, and their runs one after the
other. Most of them work on the cached sets themselves, and the keys that are
cached were computed from the sets as they were.

In whatever order the benchmarks are run, the cached sets never change, and so
each of them measures what it would measure alone: hits, misses, or sets that are
built anew.
-/

import Fleetbench.Library.Transition
import Fleetbench.Swissmap.EraseInsertCold
import Fleetbench.Swissmap.IterateCold
import Fleetbench.Swissmap.SetsCache

namespace Fleetbench.Swissmap

open Library

/-! ### Runs of benchmarks -/

inductive Benchmark where
  | findMissCold (kLookup : Bool)
  | lookupHitCold (isInsert : Bool)
  | iterateCold
  | eraseInsertCold
  | insertManyOrderedCold
  | insertManyUnorderedCold
  | findMissHot
  | insertMissHot
  | lookupHitHot (isInsert : Bool)
  | iterateHot
  | insertManyOrderedHot
  deriving DecidableEq

/-- One of them does not choose its density, and some fix the number of keys. -/
def Benchmark.cacheKey (benchmark : Benchmark) (key : CacheKey) : CacheKey :=
  match benchmark with
  | .eraseInsertCold => { key with density := .kMin }
  | .findMissHot | .insertMissHot =>
    { key with minTotalSize := FindMissHot.kMinTotalKeyCount, positive := by decide }
  | .lookupHitHot _ =>
    { key with minTotalSize := LookupHitHot.kMinTotalKeyCount, positive := by decide }
  | .iterateHot =>
    { key with minTotalSize := IterateHot.kMinTotalKeyCount, positive := by decide }
  | .insertManyOrderedHot =>
    { key with minTotalSize := InsertManyOrderedHot.kMinTotalKeyCount, positive := by decide }
  | _ => key

/-- What is seen of a run: the sets and keys that are accessed, the erasures and insertions, and
the batches of those benchmarks that are told the number of their operations. -/
structure Trace where
  accesses : List (Access UInt32) := []
  operations : List (Nat × EraseInsert UInt32) := []
  batches : List Batch := []

section

variable (layout : Layout) (choices : Choices) (key : CacheKey) (cache : SetsCache)

/-- What `LookupHit_Cold` and `LookupHit_Hot` are told to do. -/
def lookupHit (isInsert : Bool) : Finset UInt32 → UInt32 → Finset UInt32 :=
  if isInsert then insertHit else findHit

/-- What both benchmarks of insertions do with their keys. -/
def insertMany (key : CacheKey) (sets : List (Finset UInt32)) (keys : List UInt32) :
    Option (Trace × SetsCache) := do
  let (nSetsOfSize, cache) ← cache.getNumSetsOfSize key sets
  let final ← sweep (getLargestSetSize sets)
    (fun state => { state with sets := state.sets.map fun _ => ∅ })
    (visitRound (fun set key => insert key set) keys nSetsOfSize) choices.budget 0 ⟨sets, []⟩
  return ({ accesses := final.accesses }, cache)

/-- A run on the sets that are cached under a key, and the cache behind that. What the benchmarks
copy is not written back. -/
def Benchmark.run (benchmark : Benchmark) : Option (Trace × SetsCache) := do
  let key := benchmark.cacheKey key
  let (sets, cache) ← cache.getGeneratedSets choices key
  match benchmark with
  | .findMissCold kLookup =>
    let (keys, cache) ← cache.getNonExistingKeys choices key sets
    let final ← Swissmap.findMissCold kLookup sets keys choices.budget
    return ({ accesses := final.accesses },
      if kLookup then cache.setSets key final.sets else cache)
  | .lookupHitCold isInsert =>
    let (keys, cache) ← cache.getTransposedRandomizedKeys choices key sets
    let (nSetsOfSize, cache) ← cache.getNumSetsOfSize key sets
    let final ← sweep (getLargestSetSize sets) id (visitRound (lookupHit isInsert) keys nSetsOfSize)
      choices.budget 0 ⟨sets, []⟩
    return ({ accesses := final.accesses }, cache.setSets key final.sets)
  | .iterateCold =>
    let final ← Swissmap.iterateCold (getKeys (layout.order key) sets) choices.budget
    return ({ accesses := final.reads }, cache)
  | .eraseInsertCold =>
    let (keys, cache) ← cache.getExtendedKeys choices key sets
    let final ← Swissmap.eraseInsertCold sets keys choices.budget
    return ({ operations := final.operations }, cache)
  | .insertManyOrderedCold =>
    let (keys, cache) ← cache.getTransposedKeys layout key sets
    insertMany choices cache key sets keys
  | .insertManyUnorderedCold =>
    let (keys, cache) ← cache.getTransposedRandomizedKeys choices key sets
    insertMany choices cache key sets keys
  | .findMissHot =>
    let batches := List.range choices.budget
    return ({ accesses := batches.flatMap (findMissHotBatch choices.draws sets) }, cache)
  | .insertMissHot =>
    let keys := (List.range (keysPerSet sets)).map fun i => randomNonexistent (choices.draws i)
    return ({ accesses := (Swissmap.insertMissHot keys choices.budget sets).accesses }, cache)
  | .lookupHitHot isInsert =>
    let shuffled := (sets.head?.map (choices.shuffle 0)).getD []
    let batches ← Swissmap.lookupHitHot choices.copyOrder (lookupHit isInsert) sets shuffled
      choices.budget
    return ({ batches }, cache)
  | .iterateHot =>
    let batches ← Swissmap.iterateHot (layout.order key) sets choices.budget
    return ({ batches }, cache)
  | .insertManyOrderedHot =>
    let (keys, cache) ← cache.getKeys layout key sets
    let batches ← runBatches InsertManyOrderedHot.kRepetitions (rebuildSet keys) choices.budget sets
    return ({ batches }, cache)

end

/-! ### What a run measures -/

/-- Every access is to a set as it was cached, which holds the key. -/
def AllPresent (sets : List (Finset UInt32)) (accesses : List (Access UInt32)) : Prop :=
  ∀ access ∈ accesses, sets[access.index]? = some access.before ∧ access.key ∈ access.before

/-- Each whole sweep visits the elements of every set once, in an order that does not change. -/
def SweepsElements (sets : List (Finset UInt32)) (budget : Nat) (accesses : List (Access UInt32)) :
    Prop :=
  ∃ elements, List.Forall₂ IsVectorOf sets elements ∧
    ∀ sweeps, budget = sweeps * getLargestSetSize sets → VisitsElements elements sweeps accesses

/-- As many batches as are admitted, each of them on every element of every set so many times. -/
def MeasuresBatches (times : Nat) (sets : List (Finset UInt32)) (budget : Nat)
    (batches : List Batch) : Prop :=
  batches.length = budget ∧ Repeats times sets batches

/-- What the comments of the benchmarks assert of a run. The sets that `LookupHit_Hot` looks into
are the cached ones, or a part of the only one. Erasures are asserted of sets of one element. -/
def Benchmark.Measures (benchmark : Benchmark) (choices : Choices) (sets : List (Finset UInt32))
    (trace : Trace) : Prop :=
  match benchmark with
  | .findMissCold _ | .findMissHot => AllMiss sets trace.accesses
  | .lookupHitCold _ =>
    AllPresent sets trace.accesses ∧ SweepsElements sets choices.budget trace.accesses
  | .iterateCold => AllPresent sets trace.accesses
  | .eraseInsertCold => (∀ set ∈ sets, set.card = 1) → ∀ entry ∈ trace.operations,
    ∃ set, sets[entry.1]? = some set ∧ entry.2.Sound ∧ entry.2.after.card = set.card
  | .insertManyOrderedCold | .insertManyUnorderedCold =>
    SweepsElements sets choices.budget trace.accesses
  | .insertMissHot =>
    (∀ access ∈ trace.accesses, access.key ∉ access.before) ↔ choices.budget = 0 ∨
      ((List.range (keysPerSet sets)).map fun i => randomNonexistent (choices.draws i)).Nodup
  | .lookupHitHot _ => ∃ lookedInto, List.Forall₂ (· ⊆ ·) lookedInto sets ∧
    (sets.length ≠ 1 → lookedInto = sets) ∧
    MeasuresBatches LookupHitHot.kOpsPerKey lookedInto choices.budget trace.batches
  | .iterateHot => MeasuresBatches IterateHot.kRepetitions sets choices.budget trace.batches
  | .insertManyOrderedHot =>
    MeasuresBatches InsertManyOrderedHot.kRepetitions sets choices.budget trace.batches

section

variable {key : CacheKey} {sets : List (Finset UInt32)} {keys : List UInt32}

theorem allPresent_of_allHit {elements : List (List UInt32)}
    (vectors : List.Forall₂ IsVectorOf sets elements) {accesses : List (Access UInt32)}
    (hits : AllHit elements accesses) : AllPresent sets accesses := by
  intro access member
  obtain ⟨row, found, before, isKey⟩ := hits access member
  obtain ⟨set, isSet, isVector⟩ := exists_set vectors found
  rw [before, isVector.toFinset]
  exact ⟨isSet, isVector.mem_iff.mp isKey⟩

/-- Transposed keys make a schedule for the sets. -/
theorem Transposed.scheduled (transposed : Transposed sets keys) (generated : Generated key sets) :
    ∃ elements, List.Forall₂ IsVectorOf sets elements ∧
      Scheduled elements keys (getNumSetsOfSize sets) (getLargestSetSize sets) := by
  obtain ⟨elements, vectors, isKeys⟩ := transposed
  obtain ⟨keys', isKeys', scheduled⟩ :=
    exists_scheduled vectors generated.isGenerated.sorted generated.nonempty 0
  cases isKeys.symm.trans isKeys'
  exact ⟨elements, vectors, scheduled⟩

theorem isLookup_lookupHit (isInsert : Bool) :
    lookupHit isInsert = findHit ∨ lookupHit isInsert = insertHit := by
  cases isInsert
  · exact .inl rfl
  · exact .inr rfl

theorem lookups_of_transposed (transposed : Transposed sets keys) (generated : Generated key sets)
    {lookup : Finset UInt32 → UInt32 → Finset UInt32}
    (isLookup : lookup = findHit ∨ lookup = insertHit) (budget : Nat) : ∃ final,
      sweep (getLargestSetSize sets) id (visitRound lookup keys (getNumSetsOfSize sets)) budget 0
          ⟨sets, []⟩ = some final ∧ final.sets = sets ∧ AllPresent sets final.accesses ∧
        SweepsElements sets budget final.accesses := by
  obtain ⟨elements, vectors, scheduled⟩ := transposed.scheduled generated
  have isSets := map_toFinset_elements vectors
  obtain ⟨final, runs, kept, hits, visits⟩ :=
    scheduled.lookups generated.largest_ne_zero isLookup budget
  rw [isSets] at runs kept
  refine ⟨final, runs, kept, allPresent_of_allHit vectors hits, elements, vectors, ?_⟩
  rintro sweeps rfl
  exact visitsElements_of_visited generated.largest_ne_zero visits

theorem inserts_of_transposed (transposed : Transposed sets keys) (generated : Generated key sets)
    (budget : Nat) : ∃ final,
      sweep (getLargestSetSize sets)
          (fun state => { state with sets := state.sets.map fun _ => ∅ })
          (visitRound (fun set key => insert key set) keys (getNumSetsOfSize sets)) budget 0
          ⟨sets, []⟩ = some final ∧ SweepsElements sets budget final.accesses := by
  obtain ⟨elements, vectors, scheduled⟩ := transposed.scheduled generated
  obtain ⟨final, runs, -, visits⟩ := scheduled.inserts generated.largest_ne_zero budget
  rw [map_toFinset_elements vectors] at runs
  refine ⟨final, runs, elements, vectors, ?_⟩
  rintro sweeps rfl
  exact visitsElements_of_visited generated.largest_ne_zero visits

theorem iterateCold_present (generated : Generated key sets) {elements : List (List UInt32)}
    (vectors : List.Forall₂ IsVectorOf sets elements) {budget : Nat} {final : Strides UInt32}
    (runs : iterateCold elements budget = some final) : AllPresent sets final.reads := by
  obtain ⟨back, last, started⟩ := Option.bind_eq_some_iff.mp runs
  obtain ⟨_, strides, -⟩ := Option.bind_eq_some_iff.mp started
  have positive : 0 < back.length / IterateCold.kStride := by
    by_contra none
    rw [guard, if_neg none] at strides
    cases strides
  have enough := (Nat.div_pos_iff.mp positive).2
  obtain ⟨-, run⟩ := iterateCold_strided generated.isGenerated.sorted generated.nonempty vectors
    last enough
  obtain ⟨final', runs', strided⟩ := run budget
  cases runs.symm.trans runs'
  exact allPresent_of_allHit vectors strided.hits

/-- What `LookupHit_Hot` looks into. -/
theorem lookups_measured (generated : Generated key sets)
    (enough : key.minTotalSize = LookupHitHot.kMinTotalKeyCount) (choices : Choices)
    (isInsert : Bool) : ∃ batches lookedInto,
      lookupHitHot choices.copyOrder (lookupHit isInsert) sets
        ((sets.head?.map (choices.shuffle 0)).getD []) choices.budget = some batches ∧
      List.Forall₂ (· ⊆ ·) lookedInto sets ∧ (sets.length ≠ 1 → lookedInto = sets) ∧
      MeasuresBatches LookupHitHot.kOpsPerKey lookedInto choices.budget batches := by
  obtain ⟨batches, runs, measured⟩ := lookupHitHot_repeats choices.isCopy
    (isLookup_lookupHit isInsert) generated.nonempty
    ((sets.head?.map (choices.shuffle 0)).getD []) choices.budget
  refine ⟨batches, _, runs, ?_, ?_, measured⟩
  · obtain ⟨set, rfl, single⟩ | ⟨-, several⟩ :=
      replaceSingle_cases sets ((sets.head?.map (choices.shuffle 0)).getD [])
    · have large := generated.isGenerated.total
      rw [List.map_singleton, List.sum_singleton, enough] at large
      rw [single, List.forall₂_cons]
      refine ⟨?_, .nil⟩
      refine replaceSingle_subset (choices.isVector 0 set) large _ ?_
      exact List.mem_singleton_self _
    · rw [several]
      exact List.forall₂_same.mpr fun set _ => Finset.Subset.refl set
  · intro others
    obtain ⟨set, rfl, -⟩ | ⟨-, several⟩ :=
      replaceSingle_cases sets ((sets.head?.map (choices.shuffle 0)).getD [])
    · exact absurd rfl others
    · exact several

end

/-! ### Every run -/

section

variable {layout : Layout} {choices : Choices} {key : CacheKey} {cache next : SetsCache}

/-- What holds behind a run: the cache is in order, nothing that was cached has changed, and the
run is what the benchmark asserts of the cached sets. -/
structure RanOn (benchmark : Benchmark) (choices : Choices) (key : CacheKey)
    (cache next : SetsCache) (trace : Trace) : Prop where
  coherent : next.Coherent
  grows : cache.Grows next
  measures : ∃ sets, next.generatedSets (benchmark.cacheKey key) = some sets ∧
    Generated (benchmark.cacheKey key) sets ∧ benchmark.Measures choices sets trace

theorem insertMany_spec {sets : List (Finset UInt32)} {keys : List UInt32}
    {trace : Trace} (coherent : cache.Coherent)
    (isCached : cache.generatedSets key = some sets) (transposed : Transposed sets keys)
    (generated : Generated key sets)
    (runs : insertMany choices cache key sets keys = some (trace, next)) :
    next.Coherent ∧ next.generatedSets = cache.generatedSets ∧
      SweepsElements sets choices.budget trace.accesses := by
  obtain ⟨⟨sizes, counted⟩, gets, runs⟩ := Option.bind_eq_some_iff.mp runs
  obtain ⟨rfl, coherent, same⟩ := SetsCache.getNumSetsOfSize_spec coherent isCached gets
  obtain ⟨final, sweeps, runs⟩ := Option.bind_eq_some_iff.mp runs
  obtain ⟨final', sweeps', visits⟩ := inserts_of_transposed transposed generated choices.budget
  cases sweeps.symm.trans sweeps'
  cases runs
  exact ⟨coherent, same, visits⟩

theorem Benchmark.run_ranOn (coherent : cache.Coherent) {benchmark : Benchmark} {trace : Trace}
    (runs : benchmark.run layout choices key cache = some (trace, next)) :
    RanOn benchmark choices key cache next trace := by
  obtain ⟨⟨sets, loaded⟩, gets, runs⟩ := Option.bind_eq_some_iff.mp runs
  obtain ⟨generated, coherent, isCached, grows, -⟩ :=
    SetsCache.getGeneratedSets_spec coherent gets
  -- the other tables leave the sets alone
  have done {after : SetsCache} (coherent' : after.Coherent)
      (same : after.generatedSets = loaded.generatedSets)
      (measures : benchmark.Measures choices sets trace) :
      RanOn benchmark choices key cache after trace := by
    refine ⟨coherent', fun other cached isOther => ?_, sets, ?_, generated, measures⟩
    · rw [same]
      exact grows other cached isOther
    · rw [same]
      exact isCached
  cases benchmark with
  | findMissCold kLookup =>
    obtain ⟨⟨keys, cached⟩, gets, runs⟩ := Option.bind_eq_some_iff.mp runs
    obtain ⟨⟨nonempty, absent⟩, coherent, same⟩ :=
      SetsCache.getNonExistingKeys_spec coherent generated isCached gets
    obtain ⟨final, finds, runs⟩ := Option.bind_eq_some_iff.mp runs
    obtain ⟨final', finds', missed⟩ := findMissCold_missed nonempty absent kLookup choices.budget
    cases finds.symm.trans finds'
    have written : cached.setSets (Benchmark.cacheKey (.findMissCold kLookup) key) final.sets =
        cached := by
      rw [missed.restored]
      exact SetsCache.setSets_self (same ▸ isCached)
    rw [written, ite_self] at runs
    cases runs
    exact done coherent same missed.misses
  | lookupHitCold isInsert =>
    obtain ⟨⟨keys, cached⟩, gets, runs⟩ := Option.bind_eq_some_iff.mp runs
    obtain ⟨transposed, coherent, same⟩ :=
      SetsCache.getTransposedRandomizedKeys_spec coherent isCached gets
    obtain ⟨⟨sizes, counted⟩, gets, runs⟩ := Option.bind_eq_some_iff.mp runs
    obtain ⟨rfl, coherent, same'⟩ :=
      SetsCache.getNumSetsOfSize_spec coherent (same ▸ isCached) gets
    obtain ⟨final, sweeps, runs⟩ := Option.bind_eq_some_iff.mp runs
    obtain ⟨final', sweeps', kept, present, visits⟩ := lookups_of_transposed transposed generated
      (isLookup_lookupHit isInsert) choices.budget
    cases sweeps.symm.trans sweeps'
    have written : counted.setSets (Benchmark.cacheKey (.lookupHitCold isInsert) key) final.sets =
        counted := by
      rw [kept]
      exact SetsCache.setSets_self (same' ▸ same ▸ isCached)
    rw [written] at runs
    cases runs
    exact done coherent (same'.trans same) ⟨present, visits⟩
  | iterateCold =>
    obtain ⟨final, iterates, runs⟩ := Option.bind_eq_some_iff.mp runs
    cases runs
    exact done coherent rfl (iterateCold_present generated
      (SetsCache.forall₂_getKeys (layout.isVector _) sets) iterates)
  | eraseInsertCold =>
    obtain ⟨⟨rows, cached⟩, gets, runs⟩ := Option.bind_eq_some_iff.mp runs
    obtain ⟨extended, coherent, same⟩ :=
      SetsCache.getExtendedKeys_spec coherent generated isCached gets
    obtain ⟨final, erases, runs⟩ := Option.bind_eq_some_iff.mp runs
    cases runs
    refine done coherent same fun single => ?_
    obtain ⟨final', erases', sound⟩ :=
      (keepsSizes_of_singletons extended single).operations choices.budget
    cases erases.symm.trans erases'
    exact sound
  | insertManyOrderedCold =>
    obtain ⟨⟨keys, cached⟩, gets, runs⟩ := Option.bind_eq_some_iff.mp runs
    obtain ⟨transposed, coherent, same⟩ := SetsCache.getTransposedKeys_spec coherent isCached gets
    obtain ⟨coherent, same', visits⟩ :=
      insertMany_spec coherent (same ▸ isCached) transposed generated runs
    exact done coherent (same'.trans same) visits
  | insertManyUnorderedCold =>
    obtain ⟨⟨keys, cached⟩, gets, runs⟩ := Option.bind_eq_some_iff.mp runs
    obtain ⟨transposed, coherent, same⟩ :=
      SetsCache.getTransposedRandomizedKeys_spec coherent isCached gets
    obtain ⟨coherent, same', visits⟩ :=
      insertMany_spec coherent (same ▸ isCached) transposed generated runs
    exact done coherent (same'.trans same) visits
  | findMissHot =>
    cases runs
    refine done coherent rfl fun access member => ?_
    obtain ⟨batch, -, inside⟩ := List.mem_flatMap.mp member
    exact allMiss_findMissHotBatch generated.existent choices.draws batch access inside
  | insertMissHot =>
    cases runs
    refine done coherent rfl ?_
    have absent : ∀ key ∈ (List.range (keysPerSet sets)).map fun i =>
        randomNonexistent (choices.draws i), Absent sets key := by
      intro key member
      obtain ⟨i, -, rfl⟩ := List.mem_map.mp member
      exact absent_randomNonexistent generated.existent _
    obtain ⟨accesses, inserts, -, misses⟩ :=
      insertMissHot_spec generated.nonempty absent choices.budget
    rw [Benchmark.Measures, inserts]
    exact misses
  | lookupHitHot isInsert =>
    obtain ⟨batches, looks, runs⟩ := Option.bind_eq_some_iff.mp runs
    cases runs
    obtain ⟨batches', lookedInto, looks', measured⟩ :=
      lookups_measured generated rfl choices isInsert
    cases looks.symm.trans looks'
    exact done coherent rfl ⟨lookedInto, measured⟩
  | iterateHot =>
    obtain ⟨batches, iterates, runs⟩ := Option.bind_eq_some_iff.mp runs
    cases runs
    obtain ⟨batches', iterates', measured⟩ :=
      iterateHot_repeats (layout.isVector _) generated.nonempty choices.budget
    cases iterates.symm.trans iterates'
    exact done coherent rfl measured
  | insertManyOrderedHot =>
    obtain ⟨⟨rows, cached⟩, gets, runs⟩ := Option.bind_eq_some_iff.mp runs
    obtain ⟨vectors, coherent, same⟩ := SetsCache.getKeys_spec coherent isCached gets
    obtain ⟨batches, rebuilds, runs⟩ := Option.bind_eq_some_iff.mp runs
    cases runs
    obtain ⟨batches', rebuilds', measured⟩ :=
      rebuildSets_repeats vectors generated.nonempty choices.budget
    cases rebuilds.symm.trans rebuilds'
    exact done coherent same measured

section

variable {sets : List (Finset UInt32)} (generated : Generated key sets)

include generated

theorem exists_insertMany (coherent : cache.Coherent)
    (isCached : cache.generatedSets key = some sets) {keys : List UInt32}
    (transposed : Transposed sets keys) :
    ∃ outcome, insertMany choices cache key sets keys = some outcome := by
  obtain ⟨sizes, counted, gets⟩ := SetsCache.exists_getNumSetsOfSize key sets cache
  obtain ⟨rfl, -⟩ := SetsCache.getNumSetsOfSize_spec coherent isCached gets
  obtain ⟨final, sweeps, -⟩ := inserts_of_transposed transposed generated choices.budget
  exact ⟨_, Option.bind_eq_some_iff.mpr ⟨_, gets,
    Option.bind_eq_some_iff.mpr ⟨_, sweeps, rfl⟩⟩⟩

end

/-- What a benchmark needs to come to its end: sets, or draws that are enough to generate them; for
erasures also rows of keys, or draws for these; and sets of a stride at least if it goes through
them in strides. -/
structure Benchmark.Supplied (benchmark : Benchmark) (choices : Choices) (key : CacheKey)
    (cache : SetsCache) : Prop where
  sets : SetsCache.Supplied choices (benchmark.cacheKey key) cache
  rows : benchmark = .eraseInsertCold → cache.extKeys (benchmark.cacheKey key) = [] →
    ∀ sets loaded, cache.getGeneratedSets choices (benchmark.cacheKey key) = some (sets, loaded) →
      ∃ rows, SetsCache.extendSets choices sets = some rows
  large : benchmark = .iterateCold → IterateCold.kStride ≤ key.minSize

theorem Benchmark.exists_run (coherent : cache.Coherent) (layout : Layout) {benchmark : Benchmark}
    (supplied : benchmark.Supplied choices key cache) :
    ∃ outcome, benchmark.run layout choices key cache = some outcome := by
  obtain ⟨sets, loaded, gets⟩ := SetsCache.exists_getGeneratedSets supplied.sets
  obtain ⟨generated, coherent, isCached, -, sameRows⟩ :=
    SetsCache.getGeneratedSets_spec coherent gets
  cases benchmark with
  | findMissCold kLookup =>
    obtain ⟨keys, cached, gets'⟩ := SetsCache.exists_getNonExistingKeys choices _ sets loaded
    obtain ⟨⟨nonempty, absent⟩, -, -⟩ :=
      SetsCache.getNonExistingKeys_spec coherent generated isCached gets'
    obtain ⟨final, finds, -⟩ := findMissCold_missed nonempty absent kLookup choices.budget
    exact ⟨_, Option.bind_eq_some_iff.mpr ⟨_, gets, Option.bind_eq_some_iff.mpr ⟨_, gets',
      Option.bind_eq_some_iff.mpr ⟨_, finds, rfl⟩⟩⟩⟩
  | lookupHitCold isInsert =>
    obtain ⟨keys, cached, gets'⟩ :=
      SetsCache.exists_getTransposedRandomizedKeys generated choices loaded
    obtain ⟨transposed, coherent, same⟩ :=
      SetsCache.getTransposedRandomizedKeys_spec coherent isCached gets'
    obtain ⟨sizes, counted, gets''⟩ := SetsCache.exists_getNumSetsOfSize
      (Benchmark.cacheKey (.lookupHitCold isInsert) key) sets cached
    obtain ⟨rfl, -⟩ := SetsCache.getNumSetsOfSize_spec coherent (same ▸ isCached) gets''
    obtain ⟨final, sweeps, -⟩ := lookups_of_transposed transposed generated
      (isLookup_lookupHit isInsert) choices.budget
    exact ⟨_, Option.bind_eq_some_iff.mpr ⟨_, gets, Option.bind_eq_some_iff.mpr ⟨_, gets',
      Option.bind_eq_some_iff.mpr ⟨_, gets'', Option.bind_eq_some_iff.mpr ⟨_, sweeps, rfl⟩⟩⟩⟩⟩
  | iterateCold =>
    have vectors :=
      SetsCache.forall₂_getKeys (layout.isVector (Benchmark.cacheKey .iterateCold key)) sets
    obtain ⟨back, isBack, last, -⟩ :=
      exists_back generated.isGenerated.sorted generated.nonempty vectors
    obtain ⟨-, run⟩ := iterateCold_strided generated.isGenerated.sorted generated.nonempty vectors
      last (kStride_le_back generated.isGenerated (supplied.large rfl) vectors isBack)
    obtain ⟨final, iterates, -⟩ := run choices.budget
    exact ⟨_, Option.bind_eq_some_iff.mpr ⟨_, gets,
      Option.bind_eq_some_iff.mpr ⟨_, iterates, rfl⟩⟩⟩
  | eraseInsertCold =>
    have extensible := fun absent => supplied.rows rfl (sameRows ▸ absent) sets loaded gets
    obtain ⟨rows, cached, gets'⟩ := SetsCache.exists_getExtendedKeys extensible
    obtain ⟨extended, -⟩ := SetsCache.getExtendedKeys_spec coherent generated isCached gets'
    obtain ⟨final, erases⟩ := exists_eraseInsertCold extended generated.isGenerated.sorted
      generated.largest_ne_zero choices.budget
    exact ⟨_, Option.bind_eq_some_iff.mpr ⟨_, gets, Option.bind_eq_some_iff.mpr ⟨_, gets',
      Option.bind_eq_some_iff.mpr ⟨_, erases, rfl⟩⟩⟩⟩
  | insertManyOrderedCold =>
    obtain ⟨keys, cached, gets'⟩ := SetsCache.exists_getTransposedKeys generated layout loaded
    obtain ⟨transposed, coherent, same⟩ :=
      SetsCache.getTransposedKeys_spec coherent isCached gets'
    obtain ⟨_, inserts⟩ :=
      exists_insertMany generated coherent (same ▸ isCached) transposed
    exact ⟨_, Option.bind_eq_some_iff.mpr ⟨_, gets,
      Option.bind_eq_some_iff.mpr ⟨_, gets', inserts⟩⟩⟩
  | insertManyUnorderedCold =>
    obtain ⟨keys, cached, gets'⟩ :=
      SetsCache.exists_getTransposedRandomizedKeys generated choices loaded
    obtain ⟨transposed, coherent, same⟩ :=
      SetsCache.getTransposedRandomizedKeys_spec coherent isCached gets'
    obtain ⟨_, inserts⟩ :=
      exists_insertMany generated coherent (same ▸ isCached) transposed
    exact ⟨_, Option.bind_eq_some_iff.mpr ⟨_, gets,
      Option.bind_eq_some_iff.mpr ⟨_, gets', inserts⟩⟩⟩
  | findMissHot => exact ⟨_, Option.bind_eq_some_iff.mpr ⟨_, gets, rfl⟩⟩
  | insertMissHot => exact ⟨_, Option.bind_eq_some_iff.mpr ⟨_, gets, rfl⟩⟩
  | lookupHitHot isInsert =>
    obtain ⟨batches, lookedInto, looks, -⟩ := lookups_measured generated rfl choices isInsert
    exact ⟨_, Option.bind_eq_some_iff.mpr ⟨_, gets,
      Option.bind_eq_some_iff.mpr ⟨_, looks, rfl⟩⟩⟩
  | iterateHot =>
    obtain ⟨batches, iterates, -⟩ := iterateHot_repeats
      (layout.isVector (Benchmark.cacheKey .iterateHot key)) generated.nonempty choices.budget
    exact ⟨_, Option.bind_eq_some_iff.mpr ⟨_, gets,
      Option.bind_eq_some_iff.mpr ⟨_, iterates, rfl⟩⟩⟩
  | insertManyOrderedHot =>
    obtain ⟨rows, cached, gets'⟩ := SetsCache.exists_getKeys layout
      (Benchmark.cacheKey .insertManyOrderedHot key) sets loaded
    obtain ⟨vectors, -⟩ := SetsCache.getKeys_spec coherent isCached gets'
    obtain ⟨batches, rebuilds, -⟩ :=
      rebuildSets_repeats vectors generated.nonempty choices.budget
    exact ⟨_, Option.bind_eq_some_iff.mpr ⟨_, gets, Option.bind_eq_some_iff.mpr ⟨_, gets',
      Option.bind_eq_some_iff.mpr ⟨_, rebuilds, rfl⟩⟩⟩⟩

/-- Some benchmark runs on some of the cached sets. -/
def Step (layout : Layout) (before after : SetsCache) : Prop :=
  ∃ (benchmark : Benchmark) (choices : Choices) (key : CacheKey) (trace : Trace),
    benchmark.run layout choices key before = some (trace, after)

theorem coherent_reachable {before : SetsCache} (coherent : before.Coherent)
    (reached : Relation.ReflTransGen (Step layout) before cache) : cache.Coherent := by
  refine reachable_invariant coherent (fun _ _ coherent step => ?_) reached
  obtain ⟨benchmark, choices, key, trace, runs⟩ := step
  exact (benchmark.run_ranOn coherent runs).coherent

theorem grows_reachable (coherent : cache.Coherent)
    (reached : Relation.ReflTransGen (Step layout) cache next) : cache.Grows next := by
  induction reached with
  | refl => exact fun _ _ isCached => isCached
  | tail before step inductionHypothesis =>
    obtain ⟨benchmark, choices, key, trace, runs⟩ := step
    have ranOn := benchmark.run_ranOn (coherent_reachable coherent before) runs
    exact fun key sets isCached => ranOn.grows key sets (inductionHypothesis key sets isCached)

end

/-! ### A second benchmark on the same sets -/

noncomputable def listed : Layout where
  order := fun _ _ set => set.toList
  isVector := fun _ _ set => ⟨set.nodup_toList, set.toList_toFinset⟩

/-- Enough draws for two sets, and as many rounds as there are. -/
noncomputable def twoSetsChoices : Choices where
  chances := [resizedAtLast (existentKeys 4), resizedAtLast (existentKeys 3)]
  draws := fun i => UInt32.ofNat i
  shuffle := fun _ set => set.toList
  isVector := fun _ set => ⟨set.nodup_toList, set.toList_toFinset⟩
  copyOrder := fun _ set => set.toList
  isCopy := fun _ set => ⟨set.nodup_toList, set.toList_toFinset⟩
  extraDraws := fun _ => []
  budget := 8

def twoSetsKey : CacheKey := ⟨2, 5, .kMin, by decide⟩

theorem supplied_twoSets (benchmark : Benchmark)
    (sameKey : benchmark.cacheKey twoSetsKey = twoSetsKey) (other : benchmark ≠ .eraseInsertCold)
    (other' : benchmark ≠ .iterateCold) (cache : SetsCache) :
    benchmark.Supplied twoSetsChoices twoSetsKey cache where
  sets := by
    rw [sameKey]
    exact fun _ => ⟨_, generateSets_twoSets (by decide) (by decide) (by decide) (by decide)
      (by decide) (by decide)⟩
  rows := fun erases => absurd erases other
  large := fun iterates => absurd iterates other'

end Fleetbench.Swissmap
